/-!
# Errors of a call

Everything that a call or the building of a client can report. The kinds form a tree: the
errors of an answered request are one branch of it.
-/

namespace RouteBook

/-- The kinds of errors of an answered request. -/
inductive HttpKind where
  | plain
  | client
  | unauthorized
  | forbidden
  | notFound
  /-- Too many requests, with the number of seconds to wait. -/
  | rateLimit (retryAfter : Option Int)
  | server
  deriving DecidableEq, Repr

/-- The kinds of errors, with what each kind carries. -/
inductive ErrorKind where
  | general
  /-- The schema does not fit the API version. -/
  | schema (route : Option String)
  /-- A parameter was refused before anything was sent. -/
  | badRequest (param : Option String)
  | gatewayTimeout
  /-- The request could not be sent or its answer not be read. -/
  | transport
  /-- The answer has an error status. The body is kept as it came. -/
  | http (kind : HttpKind) (body : String)
  deriving DecidableEq, Repr

/-- An error. -/
structure ApiError where
  message : String
  status : Option Int
  kind : ErrorKind
  deriving DecidableEq, Repr

namespace HttpKind

/-- The classes of a kind, the narrowest first. -/
def classes : HttpKind → List String
  | plain => ["HttpError", "APIError"]
  | client => ["ClientError", "HttpError", "APIError"]
  | unauthorized => ["UnauthorizedError", "ClientError", "HttpError", "APIError"]
  | forbidden => ["ForbiddenError", "ClientError", "HttpError", "APIError"]
  | notFound => ["NotFoundError", "ClientError", "HttpError", "APIError"]
  | rateLimit _ => ["RateLimitError", "ClientError", "HttpError", "APIError"]
  | server => ["ServerError", "HttpError", "APIError"]

end HttpKind

namespace ErrorKind

/-- The classes of a kind, the narrowest first. -/
def classes : ErrorKind → List String
  | general => ["APIError"]
  | schema _ => ["SchemaError", "APIError"]
  | badRequest _ => ["BadRequestError", "APIError"]
  | gatewayTimeout => ["GatewayTimeoutError", "APIError"]
  | transport => ["TransportError", "APIError"]
  | http kind _ => kind.classes

/-- The name of a kind. -/
def name (kind : ErrorKind) : String :=
  kind.classes.headD "APIError"

end ErrorKind

namespace ApiError

/-- A schema that does not fit, with the path of the route where it shows. -/
def schema (message : String) (route : Option String) : ApiError :=
  ⟨message, none, .schema route⟩

/-- A refused parameter. -/
def badRequest (message param : String) : ApiError :=
  ⟨message, some 400, .badRequest (some param)⟩

/-- No answer came in time. -/
def gatewayTimeout : ApiError :=
  ⟨"Gateway Timeout", some 504, .gatewayTimeout⟩

/-- The request could not be sent. -/
def transport (message : String) : ApiError :=
  ⟨message, none, .transport⟩

end ApiError

end RouteBook
