import DeadCode.Name
import Mathlib.Data.List.TakeWhile

/-!
# Segments of qualified names

A separator is neither a letter nor passed over when the end of a word is looked for. So what stands on one side of it has
no influence on the other, and the lower-case form of a qualified name consists of those of its segments
(`lower_qualified`). No other character becomes a separator, so cutting off the first segment and going over to small
letters can be done in either order (`lower_cutFirst`).
-/

namespace DeadCode
set_option autoImplicit false

namespace Text

theorem meetsCased_append_separator (cs rest : List Char) : meetsCased (cs ++ '\\' :: rest) = meetsCased cs := by
  unfold meetsCased
  induction cs with
  | nil => rfl
  | cons c cs ih =>
    by_cases passed : isCaseIgnorable c = true
    · simpa only [List.cons_append, List.dropWhile_cons, passed, if_true] using ih
    · simp [passed]

theorem lowerFrom_append_separator (before cs rest : List Char) :
    lowerFrom before (cs ++ '\\' :: rest) =
      lowerFrom before cs ++ '\\' :: lowerFrom ('\\' :: (cs.reverse ++ before)) rest := by
  induction cs generalizing before with
  | nil => rfl
  | cons c cs ih =>
    simp only [List.cons_append, lowerFrom, meetsCased_append_separator, ih, List.append_assoc, List.reverse_cons,
      List.nil_append]

theorem lowerFrom_after_separator (near before cs : List Char) :
    lowerFrom (near ++ '\\' :: before) cs = lowerFrom near cs := by
  induction cs generalizing near with
  | nil => rfl
  | cons c cs ih => simp only [lowerFrom, meetsCased_append_separator, ← List.cons_append, ih]

theorem lowerFrom_of_ascii (before : List Char) {cs : List Char} (ascii : ∀ c ∈ cs, c.toNat < 128) :
    lowerFrom before cs = cs.map lowerChar := by
  induction cs generalizing before with
  | nil => rfl
  | cons c cs ih =>
    have small := ascii c List.mem_cons_self
    rw [lowerFrom, if_neg (by omega), if_neg (by omega), ih _ fun d given => ascii d (List.mem_cons_of_mem _ given)]
    rfl

theorem toList_lower (s : String) : (lower s).toList = lowerFrom [] s.toList := by
  unfold lower
  split
  · next ascii =>
    rw [String.toList_ofList, lowerFrom_of_ascii]
    simpa using ascii
  · rw [String.toList_ofList]

/-- The lower-case form of a qualified name, part by part. -/
theorem lower_qualified (a b : String) : lower (a ++ "\\" ++ b) = lower a ++ "\\" ++ lower b := by
  rw [← String.toList_inj]
  simp only [toList_lower, String.toList_append, List.append_assoc]
  have separator : "\\".toList = ['\\'] := rfl
  rw [separator, List.singleton_append, lowerFrom_append_separator, List.singleton_append]
  have fresh := lowerFrom_after_separator [] (a.toList.reverse ++ []) b.toList
  rw [List.nil_append] at fresh
  rw [fresh]

theorem ofNat_ne_separator {n : Nat} (h : 92 < n) : Char.ofNat n ≠ '\\' := by
  by_cases valid : n.isValidChar
  · have char : Char.ofNat n = Char.ofNatAux n valid := dif_pos valid
    intro eq
    have code : n = 92 := congrArg Char.toNat (char.symm.trans eq)
    omega
  · have null : Char.ofNat n = '\x00' := dif_neg valid
    rw [null]
    decide

theorem image_gt_separator : ∀ r ∈ lowerRuns, 92 < r.2.2.2 := by decide +kernel

theorem lowerChar_ne_separator {c : Char} (h : c ≠ '\\') : lowerChar c ≠ '\\' := by
  unfold lowerChar
  split
  · split
    · next upper =>
      simp only [Bool.and_eq_true, decide_eq_true_eq] at upper
      have letter : 65 ≤ c.toNat := upper.1
      exact ofNat_ne_separator (by omega)
    · exact h
  · split
    · next r found =>
      have image := image_gt_separator r (List.mem_of_find?_eq_some found)
      exact ofNat_ne_separator (by omega)
    · exact h

theorem separator_not_mem_lowerFrom (before : List Char) {cs : List Char} (h : '\\' ∉ cs) :
    '\\' ∉ lowerFrom before cs := by
  induction cs generalizing before with
  | nil => exact h
  | cons c cs ih =>
    obtain ⟨head, tail⟩ := not_or.1 (mt List.mem_cons.2 h)
    rw [lowerFrom, List.mem_append, not_or]
    refine ⟨?_, ih _ tail⟩
    split
    · decide
    · split
      · split <;> decide
      · simpa using (lowerChar_ne_separator (Ne.symm head)).symm

/-- The lower-case form of a single segment is a single segment. -/
theorem separator_not_mem_lower {s : String} (h : '\\' ∉ s.toList) : '\\' ∉ (lower s).toList := by
  rw [toList_lower]
  exact separator_not_mem_lowerFrom [] h

end Text

namespace Name

theorem ne_separator {cs : List Char} (single : '\\' ∉ cs) : ∀ c ∈ cs, decide (c ≠ '\\') = true := by
  intro c given
  exact decide_eq_true fun eq => single (eq ▸ given)

theorem cutFirst_of_single {name : String} (single : '\\' ∉ name.toList) : cutFirst name = (name, none) := by
  have all : name.toList.takeWhile (· ≠ '\\') = name.toList := List.takeWhile_eq_self_iff.2 (ne_separator single)
  simp only [cutFirst, all, List.drop_length, String.ofList_toList]

theorem cutFirst_qualified {first : String} (single : '\\' ∉ first.toList) (rest : String) :
    cutFirst (first ++ "\\" ++ rest) = (first, some rest) := by
  have chars : (first ++ "\\" ++ rest).toList = first.toList ++ '\\' :: rest.toList := by
    simp only [String.toList_append, List.append_assoc]
    rfl
  have cut : (first.toList ++ '\\' :: rest.toList).takeWhile (· ≠ '\\') = first.toList := by
    rw [List.takeWhile_append_of_pos (ne_separator single)]
    simp
  simp only [cutFirst, chars, cut, List.drop_left, String.ofList_toList]

/-- A name is a single segment, or a first one with the rest below it. -/
theorem single_or_qualified (name : String) :
    '\\' ∉ name.toList ∨ ∃ first rest, '\\' ∉ first.toList ∧ name = first ++ "\\" ++ rest := by
  by_cases single : '\\' ∈ name.toList
  · obtain ⟨first, rest, split, fresh⟩ := List.eq_append_cons_of_mem single
    refine Or.inr ⟨String.ofList first, String.ofList rest, by simpa using fresh, ?_⟩
    rw [← String.toList_inj, split]
    simp
  · exact Or.inl single

theorem unrooted_eq {name : String} (relative : Text.startsWith name "\\" = false) : unrooted name = name := by
  rw [← String.toList_inj, unrooted, Text.trimStart, String.toList_ofList]
  cases chars : name.toList with
  | nil => rfl
  | cons c cs =>
    have other : c ≠ '\\' := by
      rintro rfl
      simp [Text.startsWith, chars] at relative
    rw [List.dropWhile_cons_of_neg (by simpa using other)]

/-- A rooted name has an empty first segment. -/
theorem exists_of_rooted {name : String} (rooted : Text.startsWith name "\\" = true) :
    ∃ rest, name = "" ++ "\\" ++ rest := by
  obtain ⟨rest, eq⟩ := List.isPrefixOf_iff_prefix.1 rooted
  refine ⟨String.ofList rest, ?_⟩
  rw [← String.toList_inj, ← eq]
  simp

/-- A name that is no type of the language is no word for a class at hand either. -/
theorem isRelative_of_user {raw : String} (user : isBuiltinType raw = false) : isRelative (clean raw) = false := by
  refine Bool.eq_false_iff.2 fun relative => Bool.eq_false_iff.1 user ?_
  have word : Text.lower (clean raw) ∈ relativeWords := List.contains_iff_mem.1 relative
  have single : ∀ w ∈ relativeWords, '\\' ∉ w.toList := by decide
  have unrooted : unrooted (clean raw) = clean raw := by
    refine unrooted_eq (Bool.eq_false_iff.2 fun rooted => single _ word ?_)
    obtain ⟨rest, eq⟩ := exists_of_rooted rooted
    rw [eq, Text.lower_qualified]
    simp
  have types : ∀ w ∈ relativeWords, builtinTypes.contains w = true := by decide
  rw [isBuiltinType, unrooted]
  exact types _ word

/-- The first segment in small letters is the first one of the name in small letters. -/
theorem lower_cutFirst (name : String) : Text.lower (cutFirst name).1 = (cutFirst (Text.lower name)).1 := by
  rcases single_or_qualified name with single | ⟨first, rest, single, rfl⟩
  · rw [cutFirst_of_single single, cutFirst_of_single (Text.separator_not_mem_lower single)]
  · rw [cutFirst_qualified single, Text.lower_qualified, cutFirst_qualified (Text.separator_not_mem_lower single)]

end Name
end DeadCode
