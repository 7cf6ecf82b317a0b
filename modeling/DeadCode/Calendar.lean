import DeadCode.Text.Basic

/-!
# Dates

The date and the time of day of a moment that is counted in seconds.
-/

namespace DeadCode.Calendar
set_option autoImplicit false

/-- A date. -/
structure Date where
  year : Int
  month : Nat
  day : Nat
  deriving DecidableEq, Repr

/-- The date of a day that is counted from the first of January 1970. Years are taken to start in March, so that the day
that only some years have is their last. -/
def dateOf (days : Int) : Date :=
  let shifted := days + 719468
  let era := shifted.fdiv 146097
  let dayOfEra := (shifted - era * 146097).toNat
  let yearOfEra := (dayOfEra - dayOfEra / 1460 + dayOfEra / 36524 - dayOfEra / 146096) / 365
  let dayOfYear := dayOfEra - (365 * yearOfEra + yearOfEra / 4 - yearOfEra / 100)
  let march := (5 * dayOfYear + 2) / 153
  let month := if march < 10 then march + 3 else march - 9
  { year := yearOfEra + era * 400 + (if month ≤ 2 then 1 else 0), month
    day := dayOfYear - (153 * march + 2) / 5 + 1 }

/-- A number with at least the given number of digits. -/
def padded (digits n : Nat) : String :=
  let s := toString n
  String.ofList (List.replicate (digits - s.length) '0') ++ s

/-- A moment as a text, with parts of a second if there are any. -/
def stamp (seconds : Int) (micros : Nat) : String :=
  let days := seconds.fdiv 86400
  let rest := (seconds - days * 86400).toNat
  let date := dateOf days
  padded 4 date.year.toNat ++ "-" ++ padded 2 date.month ++ "-" ++ padded 2 date.day ++ "T" ++ padded 2 (rest / 3600) ++
    ":" ++ padded 2 (rest / 60 % 60) ++ ":" ++ padded 2 (rest % 60) ++ (if micros = 0 then "" else "." ++ padded 6 micros)

end DeadCode.Calendar
