import DeadCode.Assoc
import Mathlib.Data.List.Induction
import Mathlib.Data.List.Nodup

/-!
# Maps without a key twice

A list of pairs whose keys are distinct is the map that it makes, and its pairs are what `get?` finds. Of any list of pairs, the map has the last value for each key. Removing a key leaves the others as
they are.
-/

namespace DeadCode.Assoc
set_option autoImplicit false

theorem get?_append {κ ν : Type} [BEq κ] (m n : List (κ × ν)) (k : κ) : get? (m ++ n) k = (get? m k).or (get? n k) := by
  induction m with
  | nil => rfl
  | cons p m ih =>
    rw [List.cons_append, get?, get?]
    split
    · rfl
    · exact ih

theorem ofPairs_concat {κ ν : Type} [BEq κ] (ps : List (κ × ν)) (p : κ × ν) :
    ofPairs (ps ++ [p]) = set (ofPairs ps) p.1 p.2 := List.foldl_append

variable {κ ν : Type} [BEq κ] [LawfulBEq κ] {m : List (κ × ν)} {k : κ}

/-- Pairs without a key twice are the map that they make. -/
theorem ofPairs_of_nodup (distinct : (keys m).Nodup) : ofPairs m = m := by
  have grow : ∀ old : List (κ × ν), (keys (old ++ m)).Nodup → m.foldl (fun m p => set m p.1 p.2) old = old ++ m := by
    induction m with
    | nil => simp
    | cons p m ih =>
      intro old distinct'
      have new : p.1 ∉ keys old := by
        rw [keys, List.map_append, List.map_cons] at distinct'
        exact fun mem => (List.nodup_append.1 distinct').2.2 _ mem _ List.mem_cons_self rfl
      rw [List.foldl_cons, set_of_not_mem p.2 new, ih (List.nodup_cons.1 distinct).2 _ (by simpa using distinct')]
      simp
  exact grow [] distinct

theorem get?_of_mem {v : ν} (distinct : (keys m).Nodup) (mem : (k, v) ∈ m) : get? m k = some v := by
  induction m with
  | nil => simp at mem
  | cons p m ih =>
    obtain ⟨new, distinct⟩ := List.nodup_cons.1 distinct
    rcases List.mem_cons.1 mem with rfl | mem
    · simp [get?]
    · have ne : p.1 ≠ k := fun eq => new (List.mem_map.2 ⟨(k, v), mem, eq.symm⟩)
      rw [get?, if_neg (by simpa using ne), ih distinct mem]

theorem mem_of_get? {v : ν} (found : get? m k = some v) : (k, v) ∈ m := by
  induction m with
  | nil => cases found
  | cons p m ih =>
    rw [get?] at found
    split at found
    · next eq =>
      obtain rfl := Option.some.inj found
      rw [← eq_of_beq eq]
      exact List.mem_cons_self
    · exact List.mem_cons_of_mem _ (ih found)

theorem mem_keys_of_get? {v : ν} (found : get? m k = some v) : k ∈ keys m :=
  List.mem_map.2 ⟨(k, v), mem_of_get? found, rfl⟩

theorem exists_get?_of_mem_keys (mem : k ∈ keys m) : ∃ v, get? m k = some v := by
  induction m with
  | nil => cases mem
  | cons p m ih =>
    rw [get?]
    split
    · exact ⟨p.2, rfl⟩
    · next ne => exact ih ((List.mem_cons.1 mem).resolve_left fun eq => ne (by simp [eq]))

theorem set_of_get? {v : ν} (held : get? m k = some v) : set m k v = m := by
  induction m with
  | nil => cases held
  | cons p m ih =>
    obtain ⟨k', v'⟩ := p
    rw [get?] at held
    rw [set]
    split at held
    · next eq => rw [if_pos eq, ← Option.some.inj held, eq_of_beq eq]
    · next ne => rw [if_neg ne, ih held]

theorem set_set (v w : ν) : set (set m k v) k w = set m k w := by
  induction m with
  | nil => simp [set]
  | cons p m ih =>
    obtain ⟨k', v'⟩ := p
    by_cases eq : k' = k
    · simp [set, eq]
    · simp [set, eq, ih]

/-- Writing at a key leaves the entries of the other keys as they are, in their order. -/
theorem filter_set {p : κ × ν → Bool} (gone : ∀ v, p (k, v) = false) (v : ν) : (set m k v).filter p = m.filter p := by
  induction m with
  | nil => simp [set, gone]
  | cons q m ih =>
    obtain ⟨k', v'⟩ := q
    by_cases eq : k' = k
    · subst eq
      simp [set, gone]
    · simp [set, eq, List.filter_cons, ih]

theorem nodup_keys_ofPairs (ps : List (κ × ν)) : (keys (ofPairs ps)).Nodup := by
  induction ps using List.reverseRecOn with
  | nil => exact List.nodup_nil
  | append_singleton ps p ih =>
    rw [ofPairs_concat]
    exact nodup_keys_set p.2 ih

/-- The last of the pairs with a key counts. -/
theorem get?_ofPairs (ps : List (κ × ν)) (k : κ) :
    get? (ofPairs ps) k = ((ps.filter (·.1 == k)).getLast?).map (·.2) := by
  induction ps using List.reverseRecOn with
  | nil => rfl
  | append_singleton ps p ih =>
    rw [ofPairs_concat, List.filter_append]
    by_cases eq : p.1 = k
    · rw [← eq, get?_set_self]
      simp
    · rw [get?_set_of_ne _ _ (Ne.symm eq), ih]
      simp [eq]

theorem get?_erase_self : get? (erase m k) k = none := by
  induction m with
  | nil => rfl
  | cons p m ih =>
    obtain ⟨a, b⟩ := p
    by_cases gone : a = k
    · have kept : erase ((a, b) :: m) k = erase m k := by simp [erase, gone]
      rw [kept, ih]
    · have kept : erase ((a, b) :: m) k = (a, b) :: erase m k := by simp [erase, gone]
      rw [kept, get?, if_neg (by simpa using gone), ih]

theorem get?_erase_of_ne {k' : κ} (other : k' ≠ k) : get? (erase m k) k' = get? m k' := by
  induction m with
  | nil => rfl
  | cons p m ih =>
    obtain ⟨a, b⟩ := p
    by_cases gone : a = k
    · have kept : erase ((a, b) :: m) k = erase m k := by simp [erase, gone]
      rw [kept, ih, get?, if_neg (by simpa [gone] using Ne.symm other)]
    · have kept : erase ((a, b) :: m) k = (a, b) :: erase m k := by simp [erase, gone]
      rw [kept, get?, get?, ih]

end DeadCode.Assoc
