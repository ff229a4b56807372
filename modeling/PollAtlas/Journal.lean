/-!
# Journal

Notes that are taken along the way: what was left out, what was replaced, and why.
-/

namespace PollAtlas

/-- How much a note matters. -/
inductive Level where
  | error
  | warning
  | info
  | debug
  deriving DecidableEq, Repr

/-- The name of a level. -/
def Level.name : Level → String
  | error => "ERROR"
  | warning => "WARN"
  | info => "INFO"
  | debug => "DEBUG"

/-- One line of a journal. -/
structure Note where
  level : Level
  message : String
  deriving DecidableEq, Repr

end PollAtlas
