/-!
# Log lines
-/

namespace RouteBook

/-- How much a log line matters. -/
inductive LogLevel where
  | debug
  | warning
  deriving DecidableEq, Repr

/-- A line of the log. -/
structure LogLine where
  level : LogLevel
  text : String
  deriving DecidableEq, Repr

/-- The rank of a level: lines below the rank in force are not kept. -/
def LogLevel.rank : LogLevel → Nat
  | debug => 10
  | warning => 30

/-- The name of a level. -/
def LogLevel.name : LogLevel → String
  | debug => "DEBUG"
  | warning => "WARNING"

/-- A line for those who look for a fault. -/
def LogLine.debug (text : String) : LogLine := ⟨.debug, text⟩

/-- A line that says that something went wrong. -/
def LogLine.warning (text : String) : LogLine := ⟨.warning, text⟩

/-- The lines that a level in force keeps. -/
def LogLine.kept (force : LogLevel) (lines : List LogLine) : List LogLine :=
  lines.filter fun l => force.rank ≤ l.level.rank

end RouteBook
