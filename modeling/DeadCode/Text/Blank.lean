import DeadCode.Text.Basic

/-!
# Blanks and line ends

Which characters separate words and which end a line. The separators of information (U+001C to U+001F), the next-line
control and the line and paragraph separators are among both.
-/

namespace DeadCode.Text
set_option autoImplicit false

/-- Blank characters. -/
def isBlank (c : Char) : Bool :=
  let n := c.toNat
  (9 ≤ n && n ≤ 13) || (28 ≤ n && n ≤ 32) || n == 0x85 || n == 0xa0 || n == 0x1680 || (0x2000 ≤ n && n ≤ 0x200a) ||
    n == 0x2028 || n == 0x2029 || n == 0x202f || n == 0x205f || n == 0x3000

/-- Blanks at both ends removed. -/
def strip (s : String) : String := trimBoth isBlank s

/-- All blanks removed. -/
def removeBlanks (s : String) : String := String.ofList (s.toList.filter fun c => !isBlank c)

/-- Characters that end a line, a carriage return with a line feed after it apart. -/
def isLineEnd (c : Char) : Bool :=
  let n := c.toNat
  (10 ≤ n && n ≤ 13) || (28 ≤ n && n ≤ 30) || n == 0x85 || n == 0x2028 || n == 0x2029

/-- Lines of a text, given the line read so far in reverse; no line after a last line end. -/
def linesFrom : List Char → List Char → List (List Char)
  | acc, [] => if acc.isEmpty then [] else [acc.reverse]
  | acc, '\r' :: '\n' :: cs => acc.reverse :: linesFrom [] cs
  | acc, c :: cs => if isLineEnd c then acc.reverse :: linesFrom [] cs else linesFrom (c :: acc) cs

/-- Lines of a text without their ends. -/
def lines (s : String) : List String := (linesFrom [] s.toList).map String.ofList

/-- Carriage returns, alone or before a line feed, become line feeds. -/
def unixLines : List Char → List Char
  | '\r' :: '\n' :: cs => '\n' :: unixLines cs
  | '\r' :: cs => '\n' :: unixLines cs
  | c :: cs => c :: unixLines cs
  | [] => []

end DeadCode.Text
