import RouteBook.Text.Pieces
import RouteBook.Value.Basic

/-!
# Masking secrets

What the log shows of a request: the values of secret parameters of a path and of the
authorization header are replaced.
-/

namespace RouteBook.Mask

/-- What stands for a secret. -/
def hidden : List Char := ['*', '*', '*']

/-- The names of the secret parameters of a path. -/
def secretKeys : List String := ["access_token=", "client_secret="]

/-- What stands before and after the first occurrence of a text. -/
def splitOnce? (key : List Char) : List Char → Option (List Char × List Char)
  | [] => (Text.after? key []).map fun rest => ([], rest)
  | c :: cs =>
    match Text.after? key (c :: cs) with
    | some rest => some ([], rest)
    | none => (splitOnce? key cs).map fun (before, after) => (c :: before, after)

/-- The path with the value after the first occurrence of a key replaced. -/
def maskKey (path key : List Char) : List Char :=
  match splitOnce? key path with
  | some (before, after) => before ++ key ++ hidden ++ after.dropWhile (· != '&')
  | none => path

/-- The path with its secret parameters replaced. -/
def maskPath (path : String) : String :=
  String.ofList ((secretKeys.map String.toList).foldl maskKey path.toList)

/-- The headers with the authorization replaced. -/
def maskHeaders (headers : Entries Value) : Entries Value :=
  headers.map fun (name, v) =>
    (name, if name == "authorization" then .text (String.ofList hidden) else v)

end RouteBook.Mask
