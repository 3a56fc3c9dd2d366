import RouteBook.Entries
import RouteBook.Text.Pieces
import RouteBook.Text.Quoted

/-!
# Files

The files that a client can name: those below the directory in which it works by relative names, and any
by absolute ones, each with octets, or without any for a directory. Names stand as the system has them,
octet by octet. A file that is named in both ways stands there twice, since it is not said where the
directory of the client is. A path is followed part by part, and a file is read chunk by chunk.
-/

namespace RouteBook

/-- The files and the empty directories by name. -/
abbrev Files := Entries (Option (List UInt8))

/-- Why a file cannot be read. -/
inductive FileError where
  | missing
  | notDirectory
  | isDirectory
  deriving DecidableEq, Repr

/-- The words for an error at a path. -/
def FileError.message (path : String) : FileError → String
  | missing => "[Errno 2] No such file or directory: " ++ String.ofList (Text.quote path.toList)
  | notDirectory => "[Errno 20] Not a directory: " ++ String.ofList (Text.quote path.toList)
  | isDirectory => "[Errno 21] Is a directory: " ++ String.ofList (Text.quote path.toList)

/-- What stands at a path. -/
inductive FileNode where
  | file (octets : List UInt8)
  | directory
  deriving DecidableEq, Repr

namespace Files

/-- The parts of a path that say something. -/
def parts (path : List Char) : List String :=
  ((Text.pieces '/' path).map String.ofList).filter fun p => p != "" && p != "."

/-- Whether a path starts at the root. -/
def isAbsolute (path : String) : Bool :=
  path.toList.head? == some '/'

/-- The files that have names like a path, absolute or not. -/
def alike (files : Files) (path : String) : Files :=
  files.filter fun f => isAbsolute f.1 == isAbsolute path

/-- What stands at a list of parts, with no look at how it is reached. -/
def node? (files : Files) (place : List String) : Option FileNode :=
  if place.isEmpty then some .directory
  else
    match files.find? fun f => parts f.1.toList == place with
    | some (_, some octets) => some (.file octets)
    | some (_, none) => some .directory
    | none =>
      if files.any fun f => place.isPrefixOf (parts f.1.toList) then some .directory else none

/-- Follows parts from a place. Above the root is the root, and nothing is known above the directory of
the client. -/
def follow (files : Files) (fromRoot : Bool) (place : List String) :
    List String → Except FileError FileNode
  | [] =>
    match files.node? place with
    | some n => .ok n
    | none => .error .missing
  | part :: rest =>
    match files.node? place with
    | none => .error .missing
    | some (.file _) => .error .notDirectory
    | some .directory =>
      if part == ".." then
        if place.isEmpty && !fromRoot then .error .missing
        else follow files fromRoot place.dropLast rest
      else follow files fromRoot (place ++ [part]) rest

/-- What stands at a path. -/
def find (files : Files) (path : String) : Except FileError FileNode :=
  follow (files.alike path) (isAbsolute path) [] (parts path.toList)

/-- The number of octets that a directory takes. -/
def directorySize : Nat := 4096

/-- The slashes at the front that are kept: two of exactly two, one of any other number. -/
def root : List Char → String
  | '/' :: '/' :: '/' :: _ => "/"
  | '/' :: '/' :: _ => "//"
  | '/' :: _ => "/"
  | _ => ""

/-- A path without the parts that say nothing. -/
def tidy (path : String) : String :=
  let root := root path.toList
  let rest := "/".intercalate (parts path.toList)
  if root == "" && rest == "" then "." else root ++ rest

/-- The size of what stands at a path. -/
def size (files : Files) (path : String) : Except FileError Nat := do
  match ← files.find path with
  | .file octets => pure octets.length
  | .directory => pure directorySize

/-- The greatest number of octets that are read at once. -/
def chunkSize : Nat := 65536

/-- The chunks in which octets are read, until nothing is left. -/
def chunks (octets : List UInt8) : List (List UInt8) :=
  if octets.isEmpty then [] else octets.take chunkSize :: chunks (octets.drop chunkSize)
termination_by octets.length
decreasing_by
  have hlength : octets.length ≠ 0 := by simpa using ‹¬ octets.isEmpty = true›
  rw [List.length_drop, chunkSize]
  omega

/-- The octets of the file at a path, put together from their chunks. -/
def read (files : Files) (path : String) : Except FileError (List UInt8) := do
  match ← files.find path with
  | .file octets =>
    if [some '/', some '.'].contains path.toList.getLast? &&
        ["", "."].contains (((Text.pieces '/' path.toList).map String.ofList).getLastD "x") then
      throw .notDirectory
    else pure (chunks octets).flatten
  | .directory => throw .isDirectory

end Files

end RouteBook
