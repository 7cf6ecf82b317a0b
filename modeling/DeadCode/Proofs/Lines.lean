import DeadCode.Fix.Imports
import Mathlib.Data.List.DropRight

/-!
# Removing lines from a text

A text is the join of its lines, and lines without a line feed come back when their join is cut again. On lists of
lines, `Gap` and `Collapses` say which blank lines go together with a set of removed lines; `survivors` are the others.
`sweep` finds them in one pass, and the main lemmas say that it meets that description (`sweepFrom_zero`) and how it
grows from the last line to the first (`take_append_sweepFrom`, `sweepFrom_of_removed`).
-/

namespace DeadCode
set_option autoImplicit false

namespace Text

variable {sep : String} {c : Char}

theorem join_splitAt (single : sep.toList = [c]) (s : String) : join sep (splitAt c s) = s := by
  rw [← String.toList_inj, join, String.toList_intercalate, splitAt, List.map_map, single]
  simp only [Function.comp_def, String.toList_ofList, List.map_id']
  exact List.intercalate_splitOn c

theorem splitAt_join (single : sep.toList = [c]) {xs : List String} (nonempty : xs ≠ [])
    (free : ∀ x ∈ xs, c ∉ x.toList) : splitAt c (join sep xs) = xs := by
  have cut : ([c].intercalate (xs.map String.toList)).splitOn c = xs.map String.toList :=
    List.splitOn_intercalate c (by simpa using free) (by simpa using nonempty)
  rw [splitAt, join, String.toList_intercalate, single, cut, List.map_map]
  simp only [Function.comp_def, String.ofList_toList, List.map_id']

theorem splitAt_ne_nil (c : Char) (s : String) : splitAt c s ≠ [] := by
  simp [splitAt, List.splitOn_ne_nil]

theorem not_mem_of_mem_splitOn {cs piece : List Char} (h : piece ∈ cs.splitOn c) : c ∉ piece := by
  induction cs generalizing piece with
  | nil => simp_all
  | cons a cs ih =>
    rw [List.splitOn_cons_eq_if_modifyHead] at h
    split at h
    · rcases List.mem_cons.1 h with rfl | h
      · exact List.not_mem_nil
      · exact ih h
    · next ne =>
      obtain ⟨first, others, eq⟩ := List.exists_cons_of_ne_nil (List.splitOn_ne_nil c cs)
      rw [eq, List.modifyHead_cons] at h
      rcases List.mem_cons.1 h with rfl | h
      · have free := ih (eq ▸ List.mem_cons_self)
        exact fun mem => (List.mem_cons.1 mem).elim (fun e => ne (by simp [e])) free
      · exact ih (eq ▸ List.mem_cons_of_mem _ h)

theorem not_mem_of_mem_splitAt {s piece : String} (h : piece ∈ splitAt c s) : c ∉ piece.toList := by
  obtain ⟨cs, mem, rfl⟩ := List.mem_map.1 h
  rw [String.toList_ofList]
  exact not_mem_of_mem_splitOn mem

end Text

namespace Fix

section Survivors

variable (lines : List String) (removed : Nat → Bool)

/-- Is there a blank line at a place? -/
def blankAt (n : Nat) : Bool := lines[n]?.any isBlankLine

/-- Is the line before a place blank? -/
def blankBefore (n : Nat) : Bool := 0 < n && blankAt lines (n - 1)

/-- A line after a blank one was removed, and only blank and removed lines stand between it and here. -/
def Gap (n : Nat) : Prop :=
  ∃ m < n, removed m = true ∧ blankBefore lines m = true ∧ ∀ k < n, m < k → blankAt lines k = true ∨ removed k = true

/-- The line at the place is a blank one that would widen a gap. -/
def Collapses (n : Nat) : Prop := blankAt lines n = true ∧ Gap lines removed n

instance (n : Nat) : Decidable (Gap lines removed n) :=
  inferInstanceAs (Decidable (∃ m < n, removed m = true ∧ blankBefore lines m = true ∧
    ∀ k < n, m < k → blankAt lines k = true ∨ removed k = true))

instance (n : Nat) : Decidable (Collapses lines removed n) := inferInstanceAs (Decidable (_ ∧ _))

/-- The lines that stay, in order: those that are neither removed nor collapse. -/
def survivors : List String :=
  (lines.zipIdx.filter fun p => !removed p.2 && !decide (Collapses lines removed p.2)).map (·.1)

theorem survivors_subset : survivors lines removed ⊆ lines := by
  intro line mem
  obtain ⟨p, kept, rfl⟩ := List.mem_map.1 mem
  exact List.fst_mem_of_mem_zipIdx (List.mem_filter.1 kept).1

end Survivors

/-- The lines that stay in a part of a text which starts at line `n`, in one pass: is a gap open, and is the line before
blank? -/
def sweep (removed : Nat → Bool) : Nat → Bool → Bool → List String → List String
  | _, _, _, [] => []
  | n, gap, before, line :: lines =>
    if removed n then sweep removed (n + 1) (gap || before) (isBlankLine line) lines
    else if isBlankLine line && gap then sweep removed (n + 1) true true lines
    else line :: sweep removed (n + 1) false (isBlankLine line) lines

section Sweep

variable {lines : List String} {removed : Nat → Bool} {n : Nat}

theorem gap_succ : Gap lines removed (n + 1) ↔
    removed n = true ∧ blankBefore lines n = true ∨
      (blankAt lines n = true ∨ removed n = true) ∧ Gap lines removed n := by
  constructor
  · rintro ⟨m, le, gone, blank, between⟩
    rcases Nat.lt_succ_iff_lt_or_eq.1 le with lt | rfl
    · exact Or.inr ⟨between n (Nat.lt_succ_self n) lt, m, lt, gone, blank, fun k kn => between k (by omega)⟩
    · exact Or.inl ⟨gone, blank⟩
  · rintro (⟨gone, blank⟩ | ⟨here, m, lt, gone, blank, between⟩)
    · exact ⟨n, Nat.lt_succ_self n, gone, blank, fun k kn nk => by omega⟩
    · refine ⟨m, by omega, gone, blank, fun k kn mk => ?_⟩
      rcases Nat.lt_succ_iff_lt_or_eq.1 kn with lt | rfl
      · exact between k lt mk
      · exact here

theorem blankAt_of_drop {line : String} {rest : List String} (h : lines.drop n = line :: rest) :
    blankAt lines n = isBlankLine line := by
  have found : lines[n]? = some line := by rw [← List.head?_drop, h, List.head?_cons]
  simp [blankAt, found]

theorem sweep_subset (gap before : Bool) (lines : List String) : sweep removed n gap before lines ⊆ lines := by
  induction lines generalizing n gap before with
  | nil => exact List.Subset.refl []
  | cons line lines ih =>
    rw [sweep]
    split
    · exact List.subset_cons_of_subset line (ih ..)
    · split
      · exact List.subset_cons_of_subset line (ih ..)
      · exact List.cons_subset_cons line (ih ..)

/-- An open gap takes the blank lines at the start of what would stay. -/
theorem sweep_gap (before : Bool) (lines : List String) :
    sweep removed n true before lines = (sweep removed n false before lines).dropWhile isBlankLine := by
  induction lines generalizing n before with
  | nil => rfl
  | cons line lines ih =>
    rw [sweep, sweep]
    cases gone : removed n
    · cases blank : isBlankLine line
      · simp [blank]
      · simp [blank, ih]
    · cases before
      · simp [ih]
      · simp [ih, List.dropWhile_idempotent]

/-- One pass finds the lines that neither were removed nor collapse. -/
theorem sweep_eq_filter {rest : List String} (h : lines.drop n = rest) :
    sweep removed n (decide (Gap lines removed n)) (blankBefore lines n) rest =
      ((rest.zipIdx n).filter fun p => !removed p.2 && !decide (Collapses lines removed p.2)).map (·.1) := by
  induction rest generalizing n with
  | nil => rfl
  | cons line rest ih =>
    have next : lines.drop (n + 1) = rest := by rw [← List.drop_drop, h, List.drop_one, List.tail_cons]
    have here : blankAt lines n = isBlankLine line := blankAt_of_drop h
    have before : blankBefore lines (n + 1) = isBlankLine line := by simp [blankBefore, here]
    have gap : Gap lines removed (n + 1) ↔ _ := gap_succ
    have ih := ih next
    rw [before] at ih
    rw [sweep, List.zipIdx_cons, List.filter_cons]
    -- whether the gap stays open after this line depends on the line alone
    cases gone : removed n
    · cases blank : isBlankLine line
      · simp_all [Collapses]
      · by_cases wide : Gap lines removed n
        · simp_all [Collapses]
        · simp_all [Collapses]
    · have wider : decide (Gap lines removed (n + 1)) = (decide (Gap lines removed n) || blankBefore lines n) := by
        simp_all [Bool.or_comm]
      simp_all

end Sweep

section BottomUp

variable (lines : List String) (removed : Nat → Bool)

/-- What stays of the lines from line `n` on, if only lines from there on are removed. -/
def sweepFrom (n : Nat) : List String := sweep removed n false (blankBefore lines n) (lines.drop n)

variable {lines removed} {n : Nat}

theorem sweepFrom_of_length_le (h : lines.length ≤ n) : sweepFrom lines removed n = [] := by
  rw [sweepFrom, List.drop_eq_nil_of_le h, sweep]

theorem sweepFrom_zero : sweepFrom lines removed 0 = survivors lines removed := by
  have closed : decide (Gap lines removed 0) = false := by simp [Gap]
  have pass : sweep removed 0 (decide (Gap lines removed 0)) (blankBefore lines 0) lines = survivors lines removed :=
    sweep_eq_filter List.drop_zero
  rw [closed] at pass
  exact pass

theorem sweepFrom_subset : sweepFrom lines removed n ⊆ lines :=
  List.Subset.trans (sweep_subset ..) (List.drop_subset n lines)

theorem blankBefore_succ (h : n < lines.length) : blankBefore lines (n + 1) = isBlankLine lines[n] := by
  simp [blankBefore, blankAt, List.getElem?_eq_getElem h]

theorem closeGap_take (h : n ≤ lines.length) (after : List String) :
    closeGap (lines.take n) after = if blankBefore lines n then after.dropWhile isBlankLine else after := by
  cases n with
  | zero => simp [closeGap, blankBefore]
  | succ n =>
    have last : (lines.take (n + 1)).getLast? = some lines[n] := by
      simp [List.getLast?_take, List.getElem?_eq_getElem h]
    simp [closeGap, last, blankBefore_succ h]

/-- A removed line takes the blank lines after it along, if a blank one stands before it. -/
theorem sweepFrom_of_removed (h : n < lines.length) (gone : removed n = true) :
    sweepFrom lines removed n = closeGap (lines.take n) (sweepFrom lines removed (n + 1)) := by
  rw [closeGap_take h.le, sweepFrom, sweepFrom, blankBefore_succ h, List.drop_eq_getElem_cons h, sweep, if_pos gone, Bool.false_or]
  split
  · next blank => rw [blank, sweep_gap]
  · next blank => rw [Bool.not_eq_true] at blank; rw [blank]

/-- A line that is not removed stays, whatever happens after it. -/
theorem take_append_sweepFrom (kept : removed n = false) :
    lines.take n ++ sweepFrom lines removed n = lines.take (n + 1) ++ sweepFrom lines removed (n + 1) := by
  rcases Nat.lt_or_ge n lines.length with lt | ge
  · rw [sweepFrom, sweepFrom, blankBefore_succ lt, List.drop_eq_getElem_cons lt, sweep, ← List.take_append_getElem lt,
      List.append_assoc]
    simp only [kept, Bool.false_eq_true, if_false, Bool.and_false, List.cons_append, List.nil_append]
  · rw [sweepFrom_of_length_le ge, sweepFrom_of_length_le (by omega), List.take_of_length_le ge,
      List.take_of_length_le (by omega)]

/-- Lines without a removed one among them stay. -/
theorem take_append_sweepFrom_of_le {m : Nat} (le : n ≤ m) (kept : ∀ k, n ≤ k → k < m → removed k = false) :
    lines.take n ++ sweepFrom lines removed n = lines.take m ++ sweepFrom lines removed m := by
  induction m, le using Nat.le_induction with
  | base => rfl
  | succ m le ih =>
    rw [ih fun k nk km => kept k nk (by omega), take_append_sweepFrom (kept m le (Nat.lt_succ_self m))]

end BottomUp

end Fix
end DeadCode
