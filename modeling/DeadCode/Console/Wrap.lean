import DeadCode.Text.Blank
import DeadCode.Text.Width

/-!
# Lines of a console

A text as the lines that a console of some width shows. Lines break before a word that does not fit; a word that fits on no
line is cut. Control characters that move the cursor are left out and tabs become blanks.
-/

namespace DeadCode.Console
set_option autoImplicit false

/-- Characters that are not shown: bell, backspace, vertical tab, form feed and carriage return. -/
def isSilent (c : Char) : Bool := [7, 8, 11, 12, 13].contains c.toNat

/-- A line with blanks for tabs, from a column on; stops are eight columns apart. -/
def expandTabs (column : Nat) : List Char → List Char
  | [] => []
  | '\t' :: cs =>
    let n := 8 - column % 8
    List.replicate n ' ' ++ expandTabs (column + n) cs
  | c :: cs => c :: expandTabs (column + Text.columns c) cs

/-- The words of a line, each with the blanks after it, of at most the given number. Blanks at the start belong to the
first word. -/
def wordsFrom : Nat → List Char → List (List Char)
  | 0, _ => []
  | n + 1, cs =>
    let lead := cs.takeWhile Text.isBlank
    let rest := cs.drop lead.length
    let word := rest.takeWhile fun c => !Text.isBlank c
    let rest := rest.drop word.length
    let trail := rest.takeWhile Text.isBlank
    if word.isEmpty then [] else (lead ++ word ++ trail) :: wordsFrom n (rest.drop trail.length)

/-- Columns of a list of characters. -/
def columnsOf (cs : List Char) : Nat := cs.foldl (fun n c => n + Text.columns c) 0

/-- A word cut into pieces of a width; `piece` is the one at hand, in reverse. -/
def cut (width : Nat) (piece : List Char) (used : Nat) : List Char → List (List Char)
  | [] => [piece.reverse]
  | c :: cs =>
    let n := Text.columns c
    if used + n > width then piece.reverse :: cut width [c] n cs else cut width (c :: piece) (used + n) cs

/-- Lines of words; `line` is the one at hand. -/
def fill (width : Nat) (line : List Char) : List (List Char) → List (List Char)
  | [] => [line]
  | w :: ws =>
    let size := columnsOf (Text.dropTrailing Text.isBlank w)
    if columnsOf line + size ≤ width then fill width (line ++ w) ws
    else if size ≤ width then line :: fill width w ws
    else
      let pieces := cut width [] 0 w
      (if line.isEmpty then [] else [line]) ++ pieces.dropLast ++ fill width ((pieces.getLast?).getD []) ws

/-- A line without the blanks at its end that lie beyond the width. -/
def cropEnd (width : Nat) (cs : List Char) : List Char :=
  let blanks := cs.length - (Text.dropTrailing Text.isBlank cs).length
  cs.take (cs.length - min blanks (cs.length - width))

/-- The lines of one line of text. -/
def wrapLine (width : Nat) (cs : List Char) : List String :=
  let cs := expandTabs 0 cs
  let words := wordsFrom cs.length cs
  if words.isEmpty then [String.ofList (cropEnd width cs)]
  else (fill width [] words).map fun l => String.ofList (cropEnd width l)

/-- The lines of a text. -/
def wrap (width : Nat) (s : String) : List String :=
  ((s.toList.filter fun c => !isSilent c).splitOn '\n').flatMap (wrapLine width)

/-- What a console writes for a text. -/
def print (width : Nat) (s : String) : String := String.join ((wrap width s).map (· ++ "\n"))

end DeadCode.Console
