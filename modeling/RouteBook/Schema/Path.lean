import RouteBook.Text.CamelCase
import RouteBook.Text.Pieces

/-!
# Paths of routes

A route's path is its keys in the schema tree with slashes between them. The first one names
the namespace, the others together the function.
-/

namespace RouteBook

namespace RoutePath

/-- The path of an entry below a base. -/
def below (base part : String) : String :=
  if base == "" then part else base ++ "/" ++ part

/-- The name of the namespace and of the function at a path. -/
def split (path : String) : String × String :=
  match (Text.pieces '/' path.toList).map String.ofList with
  | [] => (Text.camelCase "" false, Text.camelCase "" false)
  | first :: others =>
    (Text.camelCase (Text.lower first) false, Text.camelCase ("-".intercalate others) false)

end RoutePath

end RouteBook
