import DeadCode.Json.Basic
import DeadCode.Text.Number
import DeadCode.Text.Quoted

/-!
# Whole numbers from data values

A number is cut toward zero, a flag counts as one or zero, and a text is read as a number.
-/

namespace DeadCode
set_option autoImplicit false

/-- Why a value is no whole number. -/
inductive WholeError where
  | notANumber (text : String)
  | undefined
  | infinite
  | wrongShape
  deriving DecidableEq, Repr

/-- The wording of the error. -/
def WholeError.message : WholeError → String
  | .notANumber t => "invalid literal for int() with base 10: " ++ Text.quoted t
  | .undefined => "cannot convert float NaN to integer"
  | .infinite => ""
  | .wrongShape => ""

/-- The whole number of a value. -/
def Json.toWhole : Json → Except WholeError Int
  | .int n => .ok n
  | .bool b => .ok (if b then 1 else 0)
  | .real .undefined => .error .undefined
  | .real d =>
    match d.toInt? with
    | some n => .ok n
    | none => .error .infinite
  | .str s =>
    match Text.wholeNumber? s with
    | some n => .ok n
    | none => .error (.notANumber s)
  | _ => .error .wrongShape

end DeadCode
