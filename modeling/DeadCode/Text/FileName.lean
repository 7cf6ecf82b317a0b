import DeadCode.Text.Basic

/-!
# Patterns of file names

A star is any text, a question mark any character and a bracket one of a set of characters.
-/

namespace DeadCode.Text
set_option autoImplicit false

/-- A part of a pattern. -/
inductive NamePart where
  | anyText
  | anyChar
  | oneOf (negated : Bool) (ranges : List (Char × Char))
  | exact (c : Char)
  deriving Repr

/-- The characters and ranges of a set. -/
def setRanges : List Char → List (Char × Char)
  | a :: '-' :: b :: cs => (a, b) :: setRanges cs
  | c :: cs => (c, c) :: setRanges cs
  | [] => []

/-- The body of a set and what follows it. A closing bracket right at the start belongs to the set. -/
def setBody (s : List Char) : Option (Bool × List Char × List Char) :=
  let negated := s.head? == some '!'
  let s := if negated then s.tail else s
  let first := if s.head? == some ']' then [']'] else []
  let rest := s.drop first.length
  let body := rest.takeWhile (· != ']')
  match rest.drop body.length with
  | ']' :: after => some (negated, first ++ body, after)
  | _ => none

/-- The parts of a pattern, of at most the given number. A bracket that is not closed stands for itself. -/
def nameParts : Nat → List Char → List NamePart
  | 0, _ => []
  | _ + 1, [] => []
  | n + 1, '*' :: cs => .anyText :: nameParts n cs
  | n + 1, '?' :: cs => .anyChar :: nameParts n cs
  | n + 1, '[' :: cs =>
    match setBody cs with
    | some (negated, body, after) => .oneOf negated (setRanges body) :: nameParts n after
    | none => .exact '[' :: nameParts n cs
  | n + 1, c :: cs => .exact c :: nameParts n cs

/-- A text and everything that is left of it after some characters. -/
def tails {α : Type} : List α → List (List α)
  | [] => [[]]
  | x :: xs => (x :: xs) :: tails xs

/-- What is left of a name after a part. -/
def NamePart.rests : NamePart → List Char → List (List Char)
  | .anyText, s => tails s
  | .anyChar, _ :: cs => [cs]
  | .oneOf negated rs, c :: cs => if (rs.any fun r => r.1 ≤ c && c ≤ r.2) != negated then [cs] else []
  | .exact p, c :: cs => if c == p then [cs] else []
  | _, [] => []

/-- Do the parts take the whole name? -/
def takesName : List NamePart → List Char → Bool
  | [], s => s.isEmpty
  | p :: ps, s => (p.rests s).any (takesName ps)

/-- Does a pattern match a name? -/
def matchesName (pattern name : String) : Bool := takesName (nameParts pattern.length pattern.toList) name.toList

end DeadCode.Text
