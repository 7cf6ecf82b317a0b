/-!
# Association lists in insertion order

A finite map as the list of its pairs. `set` overwrites in place and appends a new key, so the order of the keys is
the order of their first insertion. Neither `set` nor `erase` brings a key in twice.
-/

namespace DeadCode.Assoc
set_option autoImplicit false

variable {κ ν : Type} [BEq κ]

/-- The value at a key. -/
def get? : List (κ × ν) → κ → Option ν
  | [], _ => none
  | (k', v) :: m, k => if k' == k then some v else get? m k

/-- Is there a value at the key? -/
def has (m : List (κ × ν)) (k : κ) : Bool := m.any (·.1 == k)

/-- The map with `v` at `k`. -/
def set : List (κ × ν) → κ → ν → List (κ × ν)
  | [], k, v => [(k, v)]
  | (k', v') :: m, k, v => if k' == k then (k, v) :: m else (k', v') :: set m k v

/-- The map without `k`. -/
def erase (m : List (κ × ν)) (k : κ) : List (κ × ν) := m.filter fun p => !(p.1 == k)

/-- The keys in order. -/
def keys (m : List (κ × ν)) : List κ := m.map (·.1)

/-- The map with `f` applied to the value at `k`, or to `d` where there is none. -/
def update (m : List (κ × ν)) (k : κ) (d : ν) (f : ν → ν) : List (κ × ν) := set m k (f ((get? m k).getD d))

/-- A list of pairs as a map; the last value of a key counts. -/
def ofPairs (ps : List (κ × ν)) : List (κ × ν) := ps.foldl (fun m p => set m p.1 p.2) []

@[simp] theorem get?_set_self [LawfulBEq κ] (m : List (κ × ν)) (k : κ) (v : ν) : get? (set m k v) k = some v := by
  induction m with
  | nil => simp [set, get?]
  | cons p m ih =>
    obtain ⟨k', v'⟩ := p
    by_cases h : k' = k
    · simp [set, get?, h]
    · simp [set, get?, h, ih]

theorem get?_set_of_ne [LawfulBEq κ] (m : List (κ × ν)) {k k' : κ} (v : ν) (h : k' ≠ k) :
    get? (set m k v) k' = get? m k' := by
  induction m with
  | nil => simp [set, get?, h.symm]
  | cons p m ih =>
    obtain ⟨a, b⟩ := p
    by_cases e : a = k
    · subst e; simp [set, get?, h.symm]
    · simp [set, get?, e, ih]

theorem nodup_keys_erase {m : List (κ × ν)} (k : κ) (distinct : (keys m).Nodup) : (keys (erase m k)).Nodup :=
  distinct.sublist (List.filter_sublist.map _)

section Keys

variable [LawfulBEq κ] {m : List (κ × ν)} {k : κ}

theorem set_of_not_mem (v : ν) (new : k ∉ keys m) : set m k v = m ++ [(k, v)] := by
  induction m with
  | nil => rfl
  | cons p m ih =>
    obtain ⟨k', v'⟩ := p
    simp only [keys, List.map_cons, List.mem_cons, not_or] at new
    rw [set, if_neg (by simpa using Ne.symm new.1), ih new.2, List.cons_append]

theorem keys_set_of_mem (v : ν) (old : k ∈ keys m) : keys (set m k v) = keys m := by
  induction m with
  | nil => simp [keys] at old
  | cons p m ih =>
    obtain ⟨k', v'⟩ := p
    rw [set]
    split
    · next eq => simp [keys, eq_of_beq eq]
    · next ne =>
      have old : k ∈ keys m := (List.mem_cons.1 old).resolve_left fun eq => ne (by simp [eq])
      have same := ih old
      simp only [keys, List.map_cons] at same ⊢
      rw [same]

theorem nodup_keys_set (v : ν) (distinct : (keys m).Nodup) : (keys (set m k v)).Nodup := by
  by_cases old : k ∈ keys m
  · rwa [keys_set_of_mem v old]
  · rw [set_of_not_mem v old, keys, List.map_append]
    refine List.nodup_append.2 ⟨distinct, List.pairwise_singleton _ k, fun a mem b last eq => ?_⟩
    rw [eq, List.mem_singleton.1 last] at mem
    exact old mem

end Keys

end DeadCode.Assoc
