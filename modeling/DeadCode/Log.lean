/-!
# Log lines

What a run tells about itself besides its result.
-/

namespace DeadCode
set_option autoImplicit false

/-- How much a log line matters. -/
inductive LogLevel where
  | info
  | warning
  | error
  deriving DecidableEq, Repr

/-- The written form of a level. -/
def LogLevel.label : LogLevel → String
  | .info => "INFO"
  | .warning => "WARNING"
  | .error => "ERROR"

/-- A log line. -/
structure LogLine where
  level : LogLevel
  text : String
  deriving DecidableEq, Repr

/-- The written form of a log line. -/
def LogLine.render (l : LogLine) : String := l.level.label ++ ": " ++ l.text

end DeadCode
