import RouteBook.Auth.Resolver
import RouteBook.Client.Session
import RouteBook.Proofs.Text.Percent
import RouteBook.Proofs.Text.Utf8
import RouteBook.Proofs.Decimal.Digits
import RouteBook.Proofs.Entries
import RouteBook.Proofs.Fault.Bind
import RouteBook.Proofs.Json.RoundTrip
import RouteBook.Proofs.Json.Scalar
import RouteBook.Proofs.Request.Blank
import RouteBook.Proofs.Request.ClientHeaders
import RouteBook.Proofs.Request.Declared
import RouteBook.Proofs.Request.Document
import RouteBook.Proofs.Request.EncodedValue
import RouteBook.Proofs.Request.OutboundParts
import RouteBook.Proofs.Request.Placement
import RouteBook.Proofs.Request.Proxied
import RouteBook.Proofs.Request.Query
import RouteBook.Proofs.Request.QueryRoundTrip
import RouteBook.Proofs.Fault.Ordinary
import RouteBook.Proofs.Fault.OrdinaryRequest
import RouteBook.Proofs.Call.Ending
import RouteBook.Proofs.Call.Outcome
import RouteBook.Proofs.Call.Callback
import RouteBook.Proofs.Schema.Table
import RouteBook.Proofs.Request.Mask
import RouteBook.Proofs.Request.Secrets
import RouteBook.Proofs.Call.History
import RouteBook.Proofs.Schema.Search
import RouteBook.Proofs.Schema.Routes
import RouteBook.Proofs.Call.Delivery
import RouteBook.Proofs.Json.Null
import RouteBook.Proofs.Validation.Checked
import RouteBook.Proofs.Validation.Required
import RouteBook.Proofs.Client.Attribute
import RouteBook.Proofs.Request.Substitution
import RouteBook.Proofs.Request.Fates
import RouteBook.Proofs.Request.AddressShape
import RouteBook.Proofs.Request.Separation
import RouteBook.Proofs.Request.Files
import RouteBook.Proofs.Call.ContentLength
import RouteBook.Proofs.Validation.Progress
import RouteBook.Proofs.Json.Length
import RouteBook.Proofs.Decimal.Range
import RouteBook.Proofs.Validation.Again
import RouteBook.Proofs.Validation.Leading
import RouteBook.Proofs.Value.Long
import RouteBook.Proofs.Validation.Escape
import RouteBook.Proofs.Validation.Typed
import RouteBook.Proofs.Validation.Alike
import RouteBook.Proofs.Validation.NumberText
import RouteBook.Proofs.Calendar.IsoText
import RouteBook.Proofs.Request.PathPrefix
import RouteBook.Proofs.Request.OwnQuery
import RouteBook.Proofs.Text.LowerCase
import RouteBook.Proofs.Request.HeaderNames
import RouteBook.Proofs.Schema.References
import RouteBook.Proofs.Schema.Coherent
import RouteBook.Proofs.Text.Base64
import RouteBook.Proofs.Auth.Credentials
import RouteBook.Proofs.Call.Answered
import RouteBook.Proofs.Auth.Sources
import RouteBook.Proofs.Auth.Secrecy
import RouteBook.Proofs.Schema.Path
