/-!
# Texts as lists of characters

Searching, cutting and joining of strings. Everything is stated on `List Char`; a `String` is only the packed form
of such a list.
-/

namespace DeadCode.Text
set_option autoImplicit false

/-- Membership of a code point in a list of inclusive ranges. -/
def inRanges (rs : List (Nat × Nat)) (n : Nat) : Bool :=
  rs.any fun r => r.1 ≤ n && n ≤ r.2

/-- The rest of `s` after `p`, if `s` starts with `p`. -/
def dropPrefix? : List Char → List Char → Option (List Char)
  | [], s => some s
  | _ :: _, [] => none
  | p :: ps, c :: cs => if p = c then dropPrefix? ps cs else none

/-- Every occurrence of `old` replaced by `new`, from the left and without overlap; an empty `old` occurs nowhere. -/
def replaceIn (old new : List Char) : List Char → List Char
  | [] => []
  | c :: cs =>
    match dropPrefix? old (c :: cs) with
    | none => c :: replaceIn old new cs
    | some rest =>
      if _h' : rest.length < (c :: cs).length then new ++ replaceIn old new rest else c :: replaceIn old new cs
  termination_by s => s.length
  decreasing_by
    all_goals simp only [List.length_cons] at *
    all_goals omega

/-- `replaceIn` on strings. -/
def replace (old new s : String) : String :=
  String.ofList (replaceIn old.toList new.toList s.toList)

/-- Does `s` start with `p`? -/
def startsWith (s p : String) : Bool := p.toList.isPrefixOf s.toList

/-- Does `s` end with `p`? -/
def endsWith (s p : String) : Bool := p.toList.isSuffixOf s.toList

/-- Does `p` occur in the list? -/
def occursIn (p : List Char) : List Char → Bool
  | [] => p.isEmpty
  | c :: cs => p.isPrefixOf (c :: cs) || occursIn p cs

/-- `s` without the characters of `p` at its start. -/
def trimStart (p : Char → Bool) (s : String) : String := String.ofList (s.toList.dropWhile p)

/-- A list without the trailing elements that satisfy `p`. -/
def dropTrailing {α : Type} (p : α → Bool) (xs : List α) : List α := (xs.reverse.dropWhile p).reverse

/-- `s` without the characters of `p` at its end. -/
def trimEnd (p : Char → Bool) (s : String) : String := String.ofList (dropTrailing p s.toList)

/-- `s` without the characters of `p` at both ends. -/
def trimBoth (p : Char → Bool) (s : String) : String := trimEnd p (trimStart p s)

/-- What follows the last `sep` of a list, or the whole list. -/
def afterLast (sep : Char) (s : List Char) : List Char := (s.reverse.takeWhile (· ≠ sep)).reverse

/-- What precedes the last `sep` of a list, if there is one. -/
def beforeLast? (sep : Char) (s : List Char) : Option (List Char) :=
  match s.reverse.dropWhile (· ≠ sep) with
  | [] => none
  | _ :: r => some r.reverse

section Last

variable {sep : Char} {after : List Char}

theorem forall_ne_of_not_mem (free : sep ∉ after) : ∀ c ∈ after.reverse, decide (c ≠ sep) = true := by
  intro c mem
  exact decide_eq_true fun eq => free (eq ▸ List.mem_reverse.1 mem)

theorem afterLast_append (before : List Char) (free : sep ∉ after) : afterLast sep (before ++ sep :: after) = after := by
  rw [afterLast, List.reverse_append, List.reverse_cons, List.append_assoc,
    List.takeWhile_append_of_pos (forall_ne_of_not_mem free)]
  simp

theorem beforeLast?_append (before : List Char) (free : sep ∉ after) :
    beforeLast? sep (before ++ sep :: after) = some before := by
  rw [beforeLast?, List.reverse_append, List.reverse_cons, List.append_assoc,
    List.dropWhile_append_of_pos (forall_ne_of_not_mem free)]
  simp

theorem beforeLast?_of_not_mem (free : sep ∉ after) : beforeLast? sep after = none := by
  rw [beforeLast?, ← List.append_nil after.reverse, List.dropWhile_append_of_pos (forall_ne_of_not_mem free)]
  rfl

end Last

/-- The pieces of `s` between the `sep` characters. -/
def splitAt (sep : Char) (s : String) : List String := (s.toList.splitOn sep).map String.ofList

/-- `xs` with `sep` between its members. -/
def join (sep : String) (xs : List String) : String := String.intercalate sep xs

/-- The first `n` characters dropped. -/
def dropChars (n : Nat) (s : String) : String := String.ofList (s.toList.drop n)

/-- Number of line feeds. -/
def lineFeeds (s : List Char) : Nat := s.count '\n'

/-- Strings in code point order. -/
def sortStrings (xs : List String) : List String := xs.mergeSort fun a b => decide (a ≤ b)

/-- Strings in code point order, each once. -/
def sortUnique (xs : List String) : List String := sortStrings xs.eraseDups

end DeadCode.Text
