import DeadCode.Text.Blank
import DeadCode.Text.Classes

/-!
# Whole numbers in texts

A whole number has a sign, if any, and digits of any script with single underscores between them. Blanks may stand around it.
-/

namespace DeadCode.Text
set_option autoImplicit false

/-- The value of a digit of any script. Digits of a script follow each other, zero first. -/
def digitValue? (c : Char) : Option Nat :=
  if c.toNat < 128 then if isAsciiDigit c then some (c.toNat - 48) else none
  else (digitRanges.find? fun r => r.1 ≤ c.toNat && c.toNat ≤ r.2).map fun r => (c.toNat - r.1) % 10

/-- The number that digits write, after a number; an underscore has a digit on each side. -/
def numberFrom (n : Nat) : List Char → Option Nat
  | [] => some n
  | '_' :: c :: cs => (digitValue? c).bind fun d => numberFrom (10 * n + d) cs
  | c :: cs => (digitValue? c).bind fun d => numberFrom (10 * n + d) cs

/-- The number that digits write. -/
def number? : List Char → Option Nat
  | [] => none
  | c :: cs => (digitValue? c).bind fun d => numberFrom d cs

/-- The whole number that a text writes. -/
def wholeNumber? (s : String) : Option Int :=
  match (strip s).toList with
  | '-' :: ds => (number? ds).map fun n => -(n : Int)
  | '+' :: ds => (number? ds).map fun n => (n : Int)
  | ds => (number? ds).map fun n => (n : Int)

end DeadCode.Text
