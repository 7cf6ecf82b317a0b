import DeadCode.Proofs.JsonText
import Mathlib.Data.List.Infix

/-!
# Texts put together from pieces

Reports put pieces of text one after the other. What was put together can be told apart again if the pieces are written in a
code in which no sign starts another one (`PrefixFree`), or if a marker stands between them that does not occur before
(`append_marker_inj`). A replacement of one character is such a code at work (`replaceIn_singleton`), and the digits of a
number hold no separator (`not_mem_toString_int`).
-/

namespace DeadCode.Text
set_option autoImplicit false

section Replacing

variable {c : Char} {new : List Char}

/-- Replacing one character is writing each character on its own. -/
theorem replaceIn_singleton (c : Char) (new s : List Char) :
    replaceIn [c] new s = s.flatMap fun d => if c = d then new else [d] := by
  induction s with
  | nil => simp [replaceIn]
  | cons d s ih =>
    rw [replaceIn, List.flatMap_cons, ← ih]
    by_cases eq : c = d
    · simp [dropPrefix?, eq]
    · simp [dropPrefix?, eq]

theorem toList_replace {old : String} (single : old.toList = [c]) (new s : String) :
    (replace old new s).toList = s.toList.flatMap fun d => if c = d then new.toList else [d] := by
  rw [replace, String.toList_ofList, single, replaceIn_singleton]

end Replacing

section Codes

variable {α : Type} {f : α → List Char}

/-- A sign can be split off the front of any text, and only one can. -/
def PrefixFree (f : α → List Char) : Prop := ∀ a b s t, f a ++ s = f b ++ t → a = b ∧ s = t

theorem PrefixFree.flatMap_inj (free : PrefixFree f) (filled : ∀ a, f a ≠ []) {xs ys : List α}
    (eq : xs.flatMap f = ys.flatMap f) : xs = ys := by
  induction xs generalizing ys with
  | nil =>
    cases ys with
    | nil => rfl
    | cons y ys => simp [filled y] at eq
  | cons x xs ih =>
    cases ys with
    | nil => simp [filled x] at eq
    | cons y ys =>
      rw [List.flatMap_cons, List.flatMap_cons] at eq
      obtain ⟨rfl, rest⟩ := free x y _ _ eq
      rw [ih rest]

end Codes

section Markers

variable {m a b x y : List Char}

theorem length_le_of_append_marker (free : ¬m <:+: b ++ m.dropLast) (eq : a ++ m ++ x = b ++ m ++ y) :
    b.length ≤ a.length := by
  by_contra shorter
  have filled : m ≠ [] := by
    rintro rfl
    exact free List.nil_infix
  have positive : 0 < m.length := List.length_pos_iff.2 filled
  -- the first marker ends before the second one does
  have first : a ++ m <+: b ++ m ++ y := eq ▸ List.prefix_append _ _
  have second : b ++ m.dropLast <+: b ++ m ++ y := by
    rw [List.append_assoc]
    exact (List.prefix_append_right_inj b).2 ((List.dropLast_prefix m).trans (List.prefix_append m y))
  have early : a ++ m <+: b ++ m.dropLast := by
    refine List.prefix_of_prefix_length_le first second ?_
    simp only [List.length_append, List.length_dropLast]
    omega
  exact free ((List.suffix_append a m).isInfix.trans early.isInfix)

/-- A marker tells where the text before it ends, if it occurs nowhere before that. -/
theorem append_marker_inj (freeA : ¬m <:+: a ++ m.dropLast) (freeB : ¬m <:+: b ++ m.dropLast)
    (eq : a ++ m ++ x = b ++ m ++ y) : a = b ∧ x = y := by
  have length : a.length = b.length :=
    Nat.le_antisymm (length_le_of_append_marker freeA eq.symm) (length_le_of_append_marker freeB eq)
  rw [List.append_assoc, List.append_assoc] at eq
  obtain ⟨start, rest⟩ := List.append_inj eq length
  exact ⟨start, List.append_cancel_left rest⟩

/-- The last occurrence of a character tells what stands before it. -/
theorem append_cons_inj_of_not_mem {c : Char} (freeX : c ∉ x) (freeY : c ∉ y) (eq : a ++ c :: x = b ++ c :: y) :
    a = b ∧ x = y := by
  rcases List.append_eq_append_iff.1 eq with ⟨mid, rfl, rest⟩ | ⟨mid, rfl, rest⟩
  · cases mid with
    | nil => exact ⟨(List.append_nil a).symm, (List.cons.inj rest).2⟩
    | cons d mid => exact absurd (by simp [(List.cons.inj rest).2]) freeX
  · cases mid with
    | nil => exact ⟨List.append_nil b, (List.cons.inj rest).2.symm⟩
    | cons d mid => exact absurd (by simp [(List.cons.inj rest).2]) freeY

/-- What follows starts with the character, if there is more at all. -/
def StartsWith (c : Char) (s : List Char) : Prop := ∀ d ∈ s.head?, d = c

/-- The first occurrence of a character tells what stands before it, also where that is all. -/
theorem append_inj_of_startsWith {c : Char} (freeA : c ∉ a) (freeB : c ∉ b) (startsX : StartsWith c x)
    (startsY : StartsWith c y) (eq : a ++ x = b ++ y) : a = b ∧ x = y := by
  rcases List.append_eq_append_iff.1 eq with ⟨mid, rfl, rfl⟩ | ⟨mid, rfl, rfl⟩
  · cases mid with
    | nil => simp
    | cons d mid => exact absurd (by simp [startsX d rfl]) freeB
  · cases mid with
    | nil => simp
    | cons d mid => exact absurd (by simp [startsY d rfl]) freeA

/-- Where the second part starts with the first character of a marker, which the marker does not repeat, the marker lies in
one of the parts. -/
theorem infix_append_iff {c : Char} {cs : List Char} (once : c ∉ cs) :
    c :: cs <:+: a ++ c :: b ↔ c :: cs <:+: a ∨ c :: cs <:+: c :: b := by
  constructor
  · rintro ⟨before, after, eq⟩
    rw [List.append_assoc] at eq
    rcases List.append_eq_append_iff.1 eq with ⟨mid, rfl, rest⟩ | ⟨mid, rfl, rest⟩
    · -- the marker starts in the first part, so it ends there
      rcases List.append_eq_append_iff.1 rest with ⟨more, rfl, -⟩ | ⟨more, split, tail⟩
      · exact Or.inl ⟨before, more, by simp⟩
      · cases more with
        | nil =>
          rw [List.append_nil] at split
          exact Or.inl ⟨before, [], by simp [split]⟩
        | cons d more =>
          obtain rfl : c = d := (List.cons.inj tail).1
          cases mid with
          | nil => exact Or.inr ⟨[], after, by simpa using rest⟩
          | cons e mid => exact absurd (by simp [(List.cons.inj split).2]) once
    · exact Or.inr ⟨mid, after, by rw [List.append_assoc]; exact rest.symm⟩
  · rintro (inside | inside)
    · exact inside.trans (List.prefix_append a _).isInfix
    · exact inside.trans (List.suffix_append a _).isInfix

end Markers

section Separators

/-- A text has one piece more than it has separators. -/
theorem length_splitAt (c : Char) (s : String) : (splitAt c s).length = s.toList.count c + 1 := by
  have cut (cs : List Char) : (cs.splitOn c).length = cs.count c + 1 := by
    induction cs with
    | nil => simp
    | cons d cs ih =>
      rw [List.splitOn_cons_eq_if_modifyHead, List.count_cons]
      split
      · simp [ih]
      · simp [ih]
  rw [splitAt, List.length_map, cut]

/-- With one more at the front, the separator stands before every text. -/
theorem cons_intercalate (c : Char) {xss : List (List Char)} (filled : xss ≠ []) :
    c :: [c].intercalate xss = xss.flatMap (c :: ·) := by
  induction xss with
  | nil => exact absurd rfl filled
  | cons xs xss ih =>
    cases xss with
    | nil => simp
    | cons ys xss =>
      rw [List.intercalate_cons_cons, List.flatMap_cons, ← ih (by simp)]
      simp

/-- A separator between texts occurs once between each two of them, and as often as they hold it. -/
theorem count_intercalate_self (c : Char) {xss : List (List Char)} (filled : xss ≠ []) :
    ([c].intercalate xss).count c + 1 = xss.length + xss.flatten.count c := by
  have count := congrArg (List.count c) (cons_intercalate c filled)
  rw [List.count_cons_self] at count
  rw [count]
  clear count filled
  induction xss with
  | nil => rfl
  | cons xs xss ih =>
    rw [List.flatMap_cons, List.count_append, List.count_cons_self, ih, List.flatten_cons, List.count_append, List.length_cons]
    omega

/-- With one more at the end, the separator stands after every text. -/
theorem intercalate_append (c : Char) {xss : List (List Char)} (filled : xss ≠ []) :
    [c].intercalate xss ++ [c] = xss.flatMap (· ++ [c]) := by
  induction xss with
  | nil => exact absurd rfl filled
  | cons xs xss ih =>
    cases xss with
    | nil => simp
    | cons ys xss => rw [List.intercalate_cons_cons, List.flatMap_cons, ← ih (by simp), List.append_assoc]

/-- Other characters occur as often as the texts hold them. -/
theorem count_intercalate_of_ne {c e : Char} (other : c ≠ e) (xss : List (List Char)) :
    ([c].intercalate xss).count e = xss.flatten.count e := by
  induction xss with
  | nil => rfl
  | cons xs xss ih =>
    cases xss with
    | nil => simp
    | cons ys xss =>
      have rest : (xs :: ys :: xss).flatten = xs ++ (ys :: xss).flatten := List.flatten_cons
      have none : [c].count e = 0 := by simp [other]
      rw [List.intercalate_cons_cons, List.count_append, List.count_append, ih, none, rest, List.count_append]
      omega

end Separators

section Numbers

theorem toString_int_inj {n m : Int} (eq : toString n = toString m) : n = m := by
  have ends : Json.Ends [] := by simp [Json.Ends]
  have read := Json.readScalar_int (l := {}) (n := n) rfl ends
  rw [eq, Json.readScalar_int rfl ends] at read
  simpa using read.symm

/-- A number is written with digits and a minus. -/
theorem mem_toString_int {n : Int} {c : Char} (mem : c ∈ (toString n).toList) : c.isDigit = true ∨ c = '-' := by
  obtain ⟨m, d, ds, eq, -, text⟩ := Json.exists_digits n
  have digits (inside : c ∈ d :: ds) : c.isDigit = true := Json.isDigit_of_mem (eq ▸ inside)
  rcases text with ⟨text, -⟩ | ⟨text, -⟩
  · rw [text] at mem
    exact Or.inl (digits mem)
  · rw [text] at mem
    exact (List.mem_cons.1 mem).elim Or.inr fun inside => Or.inl (digits inside)

/-- Neither separators nor line ends occur in a number. -/
theorem not_mem_toString_int {n : Int} {c : Char} (other : c.isDigit = false) (minus : c ≠ '-') : c ∉ (toString n).toList :=
  fun mem => (mem_toString_int mem).elim (by simp [other]) minus

end Numbers

end DeadCode.Text
