import DeadCode.Text.Basic
import DeadCode.Text.WidthTable

/-!
# Widths in columns

The number of terminal columns that a text takes.
-/

namespace DeadCode.Text
set_option autoImplicit false

/-- Columns of one character. -/
def columns (c : Char) : Nat :=
  if c.toNat < 128 then if c.toNat < 32 || c.toNat == 127 then 0 else 1
  else if inRanges zeroWidthRanges c.toNat then 0
  else if inRanges wideRanges c.toNat then 2
  else 1

/-- Columns of a text. -/
def width (s : String) : Nat := s.toList.foldl (fun n c => n + columns c) 0

/-- `n` blanks. -/
def blanks (n : Nat) : String := String.ofList (List.replicate n ' ')

/-- A text filled up with blanks on the right. -/
def alignLeft (n : Nat) (s : String) : String := s ++ blanks (n - width s)

/-- A text filled up with blanks on the left. -/
def alignRight (n : Nat) (s : String) : String := blanks (n - width s) ++ s

/-- A text in the middle, with the odd blank on the right. -/
def alignCentre (n : Nat) (s : String) : String :=
  let free := n - width s
  blanks (free / 2) ++ s ++ blanks (free - free / 2)

end DeadCode.Text
