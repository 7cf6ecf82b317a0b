import DeadCode.Record.Issue
import Mathlib.Data.List.Sort
import Mathlib.Data.Prod.Lex
import Mathlib.Data.String.Basic

/-!
# The canonical list of findings

`Issue.key` is what makes two findings the same: file, line, rule and symbol, in the order of a report. `canonical` keeps
one finding of each key and sorts by it, so its keys are strictly increasing, and they are fixed by the set of keys of
what it is given (`map_key_canonical_eq`). Comparing two reports thus comes down to comparing two sets of keys.
-/

namespace DeadCode.Issue
set_option autoImplicit false

/-- File, line, rule and symbol of a finding, in lexicographic order. -/
abbrev Key := String ×ₗ Int ×ₗ String ×ₗ String

/-- The key of a finding. -/
def key (i : Issue) : Key := toLex (i.file, toLex (i.line, toLex (i.rule, i.symbol)))

theorem key_eq_iff {i j : Issue} :
    i.key = j.key ↔ i.file = j.file ∧ i.line = j.line ∧ i.rule = j.rule ∧ i.symbol = j.symbol := by
  simp only [key, EmbeddingLike.apply_eq_iff_eq, Prod.mk.injEq]

theorem same_iff_key_eq {i j : Issue} : i.same j = true ↔ i.key = j.key := by
  simp only [same, key_eq_iff, Bool.and_eq_true, beq_iff_eq]
  tauto

theorem same_congr {i j : Issue} (h : i.key = j.key) (k : Issue) : k.same i = k.same j := by
  rw [Bool.eq_iff_iff, same_iff_key_eq, same_iff_key_eq, h]

theorem before_iff_key_le {i j : Issue} : i.before j = true ↔ i.key ≤ j.key := by
  simp only [before, key, Prod.Lex.toLex_le_toLex]
  by_cases file : i.file = j.file
  · by_cases line : i.line = j.line
    · by_cases rule : i.rule = j.rule
      · simp [file, line, rule]
      · simp only [file, line, rule, if_true, if_false, decide_eq_true_eq, lt_irrefl, false_or, true_and, false_and,
          or_false]
    · simp only [file, line, if_true, if_false, decide_eq_true_eq, lt_irrefl, false_or, true_and, false_and, or_false]
  · simp only [file, if_false, decide_eq_true_eq, false_and, or_false]

theorem before_trans (i j k : Issue) (ij : i.before j = true) (jk : j.before k = true) : i.before k = true :=
  before_iff_key_le.2 (le_trans (before_iff_key_le.1 ij) (before_iff_key_le.1 jk))

theorem before_total (i j : Issue) : (i.before j || j.before i) = true := by
  rw [Bool.or_eq_true, before_iff_key_le, before_iff_key_le]
  exact le_total i.key j.key

theorem any_same_iff {seen : List Issue} {i : Issue} : seen.any (·.same i) = true ↔ i.key ∈ seen.map key := by
  simp only [List.any_eq_true, same_iff_key_eq, List.mem_map]

/-- What is kept is the first finding of its key, unless the key was seen before. -/
theorem mem_uniqueFrom_iff {seen is : List Issue} {i : Issue} :
    i ∈ uniqueFrom seen is ↔ i.key ∉ seen.map key ∧ is.find? (·.same i) = some i := by
  induction is generalizing seen with
  | nil => simp [uniqueFrom]
  | cons a is ih =>
    rw [uniqueFrom, List.find?_cons]
    by_cases same : a.key = i.key
    · rw [same_iff_key_eq.2 same]
      split
      · next found =>
        have old : i.key ∈ seen.map key := same ▸ any_same_iff.1 found
        exact iff_of_false (fun kept => (ih.1 kept).1 old) fun h => h.1 old
      · next fresh =>
        have new : i.key ∉ seen.map key := fun old => fresh (any_same_iff.2 (same ▸ old))
        have once : i ∉ uniqueFrom (a :: seen) is := fun kept => (ih.1 kept).1 (by simp [same])
        simp [once, new, eq_comm]
    · have other : a.same i = false := Bool.eq_false_iff.2 fun h => same (same_iff_key_eq.1 h)
      rw [other]
      split
      · exact ih
      · have ne : i ≠ a := fun eq => same (eq ▸ rfl)
        simp [ih, ne, Ne.symm same]

/-- No key is kept twice. -/
theorem nodup_uniqueFrom (seen is : List Issue) : ((uniqueFrom seen is).map key).Nodup := by
  induction is generalizing seen with
  | nil => simp [uniqueFrom]
  | cons a is ih =>
    rw [uniqueFrom]
    split
    · exact ih seen
    · refine List.nodup_cons.2 ⟨fun twice => ?_, ih (a :: seen)⟩
      obtain ⟨i, kept, eq⟩ := List.mem_map.1 twice
      exact (mem_uniqueFrom_iff.1 kept).1 (by simp [eq])

/-- The canonical list consists of the first findings of each key. -/
theorem mem_canonical_iff {is : List Issue} {i : Issue} : i ∈ canonical is ↔ is.find? (·.same i) = some i := by
  rw [canonical, List.mem_mergeSort, unique, mem_uniqueFrom_iff]
  simp

theorem mem_canonical {is : List Issue} {i : Issue} (h : i ∈ canonical is) : i ∈ is :=
  List.mem_of_find?_eq_some (mem_canonical_iff.1 h)

/-- The canonical list has exactly the keys of what it is made from. -/
theorem mem_map_key_canonical {is : List Issue} {k : Key} : k ∈ (canonical is).map key ↔ k ∈ is.map key := by
  constructor
  · intro h
    obtain ⟨i, kept, rfl⟩ := List.mem_map.1 h
    exact List.mem_map_of_mem (mem_canonical kept)
  · intro h
    obtain ⟨i, given, rfl⟩ := List.mem_map.1 h
    obtain ⟨j, first⟩ := Option.isSome_iff_exists.1
      (List.find?_isSome.2 ⟨i, given, same_iff_key_eq.2 rfl⟩ : (is.find? (·.same i)).isSome = true)
    have eq : j.key = i.key := same_iff_key_eq.1 (by simpa using List.find?_some first)
    refine List.mem_map.2 ⟨j, mem_canonical_iff.2 ?_, eq⟩
    simpa only [same_congr eq] using first

theorem nodup_map_key_canonical (is : List Issue) : ((canonical is).map key).Nodup :=
  ((List.mergeSort_perm (unique is) before).map key).nodup_iff.2 (nodup_uniqueFrom [] is)

/-- The keys of a report stand in strictly increasing order. -/
theorem sorted_map_key_canonical (is : List Issue) : ((canonical is).map key).Pairwise (· < ·) := by
  have sorted : (canonical is).Pairwise fun i j => i.before j = true :=
    List.pairwise_mergeSort before_trans before_total (unique is)
  have weak : ((canonical is).map key).Pairwise (· ≤ ·) :=
    List.pairwise_map.2 (sorted.imp fun h => before_iff_key_le.1 h)
  exact (weak.and (nodup_map_key_canonical is)).imp fun h => lt_of_le_of_ne h.1 h.2

/-- Equal sets of keys make equal canonical lists, key by key. -/
theorem map_key_canonical_eq {is js : List Issue} (h : ∀ k, k ∈ is.map key ↔ k ∈ js.map key) :
    (canonical is).map key = (canonical js).map key := by
  refine (sorted_map_key_canonical is).eq_of_mem_iff (sorted_map_key_canonical js) fun k => ?_
  rw [mem_map_key_canonical, mem_map_key_canonical, h]

/-- Two lists in strictly increasing order of keys are equal if they have the same members. -/
theorem eq_of_sorted_map_key {is js : List Issue} (sorted : (is.map key).Pairwise (· < ·))
    (sorted' : (js.map key).Pairwise (· < ·)) (h : ∀ i, i ∈ is ↔ i ∈ js) : is = js := by
  have irrefl : Std.Irrefl fun i j : Issue => i.key < j.key := ⟨fun i => lt_irrefl i.key⟩
  have antisymm : Std.Antisymm fun i j : Issue => i.key < j.key := ⟨fun _ _ ij ji => absurd ij (lt_asymm ji)⟩
  exact (List.pairwise_map.1 sorted).eq_of_mem_iff (List.pairwise_map.1 sorted') h

end DeadCode.Issue
