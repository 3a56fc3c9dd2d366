import RouteBook.Text.Base64
import RouteBook.Value.Number

/-!
# Authentication

The credentials of a client and how they go into a request: into the query of its path, or
into one header. Credentials that cannot authenticate are refused when they are made.
-/

namespace RouteBook

/-- How a client proves who it is. -/
inductive AuthScheme where
  | anonymous
  | basic
  | oauth
  | token
  deriving DecidableEq, Repr

/-- The name of a scheme. -/
def AuthScheme.name : AuthScheme → String
  | anonymous => "none"
  | basic => "basic"
  | oauth => "oauth"
  | token => "token"

/-- The scheme of a name. -/
def AuthScheme.ofName? (name : String) : Option AuthScheme :=
  if name == "none" then some anonymous
  else if name == "basic" then some basic
  else if name == "oauth" then some oauth
  else if name == "token" then some token
  else none

/-- Why credentials cannot authenticate. -/
inductive AuthProblem where
  | unknownScheme
  | basicIncomplete
  | oauthIncomplete
  | tokenMissing
  deriving DecidableEq, Repr

/-- The words for a problem. -/
def AuthProblem.message : AuthProblem → String
  | unknownScheme => "Invalid authentication type, must be 'basic', 'oauth' or 'token'"
  | basicIncomplete => "Basic authentication requires both a username and password to be set"
  | oauthIncomplete => "OAuth2 authentication requires a token or key & secret to be set"
  | tokenMissing => "Token authentication requires a token to be set"

/-- The credentials of a client. -/
structure Auth where
  scheme : AuthScheme := .anonymous
  username : Value := .null
  password : Value := .null
  token : Value := .null
  key : Value := .null
  secret : Value := .null

namespace Auth

/-- What is wrong with credentials, if anything. -/
def problem? (a : Auth) : Option AuthProblem :=
  match a.scheme with
  | .anonymous => none
  | .basic => if a.username.truthy && a.password.truthy then none else some .basicIncomplete
  | .oauth =>
    if a.token.truthy || (a.key.truthy && a.secret.truthy) then none else some .oauthIncomplete
  | .token => if a.token.truthy then none else some .tokenMissing

/-- The credentials, unless they cannot authenticate. -/
def checked (a : Auth) : Except AuthProblem Auth :=
  match a.problem? with
  | none => .ok a
  | some p => .error p

/-- The scheme that a value names. -/
def schemeOf? : Value → Option AuthScheme
  | .text s => AuthScheme.ofName? s
  | _ => none

/-- The credentials with the given fields. -/
def ofFields (fields : Entries Value) : Except AuthProblem Auth :=
  match schemeOf? ((fields.get? "type").getD (.text "none")) with
  | none => .error .unknownScheme
  | some scheme =>
    checked {
      scheme
      username := fields.value "username"
      password := fields.value "password"
      token := fields.value "token"
      key := fields.value "key"
      secret := fields.value "secret" }

/-- Basic credentials. -/
def basic (username password : Value) : Except AuthProblem Auth :=
  checked { scheme := .basic, username, password }

/-- OAuth credentials: a token, or a key and its secret. -/
def oauth (token key secret : Value) : Except AuthProblem Auth :=
  checked { scheme := .oauth, token, key, secret }

/-- A token. -/
def bearer (token : Value) : Except AuthProblem Auth :=
  checked { scheme := .token, token }

/-- Whether the credentials say who the client is. -/
def enabled (a : Auth) : Bool :=
  a.scheme != .anonymous

/-- The character that joins a parameter to a path. -/
def joiner (path : String) : String :=
  if path.toList.contains '?' then "&" else "?"

/-- The parameters that OAuth credentials add to a query. -/
def oauthQuery (a : Auth) : Except Fault String :=
  if a.token.truthy then do
    let token ← a.token.encoded
    pure ("access_token=" ++ token)
  else do
    let key ← a.key.encoded
    let secret ← a.secret.encoded
    pure ("client_id=" ++ key ++ "&client_secret=" ++ secret)

/-- The header that token and basic credentials set. Only the text of basic credentials is encoded. -/
def authorization (a : Auth) : Except Fault (Option Value) :=
  match a.scheme with
  | .anonymous | .oauth => .ok none
  | .token => some <$> a.token.shownAfter "token "
  | .basic => do
    let username ← a.username.shown
    let password ← a.password.shown
    if a.username.isRagged || a.password.isRagged then throw .unencodable
    else
      let octets := Text.Utf8.ofString (username ++ ":" ++ password)
      pure (some (.text ("Basic " ++ String.ofList (Text.Base64.encode octets))))

/-- The path and the headers of a request with the credentials in them. -/
def apply (a : Auth) (path : String) (headers : Entries Value) :
    Except Fault (String × Entries Value) :=
  match a.scheme with
  | .oauth => do
    let query ← a.oauthQuery
    pure (path ++ joiner path ++ query, headers)
  | _ => do
    match ← a.authorization with
    | some v => pure (path, headers.put "authorization" v)
    | none => pure (path, headers)

/-- The path and the headers of a request; without credentials they stay as they are. -/
def applyTo (auth : Option Auth) (path : String) (headers : Entries Value) :
    Except Fault (String × Entries Value) :=
  match auth with
  | none => .ok (path, headers)
  | some a => a.apply path headers

end Auth

end RouteBook
