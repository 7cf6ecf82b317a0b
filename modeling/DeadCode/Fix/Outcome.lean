import DeadCode.Record.Issue

/-!
# Outcomes of repairs

What became of an issue that was to be repaired.
-/

namespace DeadCode.Fix
set_option autoImplicit false

/-- How a repair ended. -/
inductive Status where
  | fixed
  | failed
  | skipped
  deriving DecidableEq, Inhabited, Repr

/-- The written form of a status. -/
def Status.label : Status → String
  | .fixed => "fixed"
  | .failed => "failed"
  | .skipped => "skipped"

/-- The outcome of a repair. A text that was repaired comes with the numbers of the lines that went. -/
structure Outcome where
  status : Status
  issue : Issue
  message : String := ""
  newText : Option String := none
  removedLines : List Int := []
  modifiedLines : List Int := []
  deriving DecidableEq, Inhabited, Repr

namespace Outcome

/-- A repair that was made. -/
def fixed (issue : Issue) (newText message : String) (removedLines : List Int) : Outcome :=
  { status := .fixed, issue, message, newText := some newText, removedLines }

/-- A repair that could not be made. -/
def failed (issue : Issue) (message : String) : Outcome := { status := .failed, issue, message }

/-- A repair that was not tried. -/
def skipped (issue : Issue) (message : String) : Outcome := { status := .skipped, issue, message }

/-- Did the repair change the text? -/
def isChange (o : Outcome) : Bool := o.status == .fixed && o.newText.isSome

end Outcome
end DeadCode.Fix
