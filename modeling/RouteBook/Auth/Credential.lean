import RouteBook.Auth.Context
import RouteBook.Log
import RouteBook.Text.AnyText

/-!
# Credentials

A credential comes from the first source that has it: a given value, the environment, a
default. Log lines name the source and never the value. The variables of an environment stand under their
names as the system has them, octet by octet (`AnyText.systemName?`).
-/

namespace RouteBook

/-- Why credentials cannot be had. -/
inductive CredentialError where
  /-- No source has a credential that is required. -/
  | notFound (envName : Option AnyText)
  | invalid (p : AuthProblem)
  | fault (f : Fault)
  deriving DecidableEq, Repr

/-- The words for an error. -/
def CredentialError.message : CredentialError → String
  | notFound (some name) =>
    if name == "" then "Required credential not found"
    else s!"Required credential not found (checked env var: {name.face})"
  | notFound none => "Required credential not found"
  | invalid p => p.message
  | fault f => f.message

namespace Credential

/-- Where a credential may come from. -/
structure Request where
  value : Value := .null
  envName : Option AnyText := none
  default : Value := .null
  required : Bool := false

/-- The sources of a credential. -/
inductive Source where
  | given
  | environment (name : AnyText)
  | default
  deriving DecidableEq, Repr

/-- What a source is called. -/
def Source.name : Source → String
  | given => "explicit parameter"
  | environment name => s!"environment variable '{name.face}'"
  | default => "default value"

/-- The value of the variable of a name. -/
def lookUp? {α : Type} (env : Entries α) (name : AnyText) : Option α :=
  name.systemName?.bind env.get?

/-- The value of a variable that is asked for. -/
def fromEnvironment? (env : Entries AnyText) (envName : Option AnyText) :
    Option (AnyText × AnyText) := do
  let name ← envName
  if name == "" then none
  else
    let v ← lookUp? env name
    pure (name, v)

/-- The credential and its source. -/
def find (env : Entries AnyText) (r : Request) : Value × Source :=
  match r.value with
  | .null =>
    match fromEnvironment? env r.envName with
    | some (name, v) => (v.toValue, .environment name)
    | none => (r.default, .default)
  | v => (v, .given)

/-- The log line for a credential that was found. -/
def foundLine (s : Source) : LogLine :=
  .debug s!"Resolved credential from {s.name}: ***"

/-- What was logged, and a result or why there is none. -/
abbrev Logged (α : Type) := List LogLine × Except CredentialError α

/-- Goes on with a result; an error ends it. -/
def Logged.andThen {α β : Type} (x : Logged α) (f : α → Logged β) : Logged β :=
  match x.2 with
  | .ok a => (x.1 ++ (f a).1, (f a).2)
  | .error e => (x.1, .error e)

/-- Whether the credential is given, or the system can be asked for its variable. -/
def Request.isAskable (r : Request) : Bool :=
  !r.value.isNull || r.envName.all AnyText.isAskable

/-- The credential asked for. -/
def resolve (env : Entries AnyText) (r : Request) : Logged Value :=
  if r.isAskable then
    match find env r with
    | (.null, _) => ([], if r.required then .error (.notFound r.envName) else .ok .null)
    | (v, source) => ([foundLine source], .ok v)
  else ([], .error (.fault .unencodable))

/-! ## Sets of variables -/

/-- The name that variables start with: capitals, without low lines at the end. -/
def groupName (name : String) : String :=
  Text.upper (String.ofList (name.toList.reverse.dropWhile (· == '_')).reverse)

/-- The name of a variable of a group. -/
def variableName (group part : String) : String :=
  group ++ "_" ++ part

/-- Variables that make credentials together. -/
inductive VariableSet where
  | token
  | oauthToken
  | client
  | login
  deriving DecidableEq, Repr

namespace VariableSet

/-- The sets in order of preference. -/
def all : List VariableSet :=
  [token, oauthToken, client, login]

/-- What the names of the variables end in. -/
def parts : VariableSet → List String
  | token => ["TOKEN"]
  | oauthToken => ["OAUTH_TOKEN"]
  | client => ["CLIENT_ID", "CLIENT_SECRET"]
  | login => ["USERNAME", "PASSWORD"]

/-- The credentials that the values of the variables make. -/
def credentials (values : Entries Value) : VariableSet → Except AuthProblem Auth
  | token => Auth.bearer (values.value "TOKEN")
  | oauthToken => Auth.oauth (values.value "OAUTH_TOKEN") .null .null
  | client => Auth.oauth .null (values.value "CLIENT_ID") (values.value "CLIENT_SECRET")
  | login => Auth.basic (values.value "USERNAME") (values.value "PASSWORD")

end VariableSet

/-- The values of variables of a group, null for those that are not there. -/
def readVariables (env : Entries AnyText) (group : String) : List String → Logged (Entries Value)
  | [] => ([], .ok [])
  | part :: parts =>
    (resolve env { envName := some (variableName group part) }).andThen fun v =>
      (readVariables env group parts).andThen fun values => ([], .ok ((part, v) :: values))

/-- The log line when no set is complete. -/
def anonymousLine (group : String) : LogLine :=
  .debug s!"No credentials found for prefix '{group}', using anonymous access"

/-- The credentials of the first complete set. -/
def resolveSets (env : Entries AnyText) (group : String) : List VariableSet → Logged Auth
  | [] => ([anonymousLine group], .ok {})
  | set :: rest =>
    (readVariables env group set.parts).andThen fun values =>
      if values.all (·.2.truthy) then ([], (set.credentials values).mapError .invalid)
      else resolveSets env group rest

/-- The credentials that the variables of a group make. -/
def resolveAuth (env : Entries AnyText) (group : String) : Logged Auth :=
  resolveSets env (groupName group) VariableSet.all

end Credential

end RouteBook
