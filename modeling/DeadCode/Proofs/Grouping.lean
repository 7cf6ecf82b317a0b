import DeadCode.Proofs.Assoc
import DeadCode.Proofs.TableRuns
import DeadCode.Report.Basic

/-!
# Groups and counts of issues

Reports count issues by a key and put them into groups of one key. A tally has each key once, with the number of times that it
occurs (`tallies_tally`). The groups come in the order of their keys, each holds the issues with its key in the order in which
they were given (`group_eq_filter`), and together they hold every issue once (`flatMap_groupBy_perm`).
-/

namespace DeadCode.Report
set_option autoImplicit false

section Tallies

/-- The sum of the numbers of a tally. -/
def total : List (String × Nat) → Nat
  | [] => 0
  | p :: ps => p.2 + total ps

/-- Each key once, with the number of times that it occurs. -/
structure Tallies (keys : List String) (ps : List (String × Nat)) : Prop where
  distinct : (Assoc.keys ps).Nodup
  counts : ∀ k n, (k, n) ∈ ps ↔ n = keys.count k ∧ k ∈ keys
  sum : total ps = keys.length

/-- Writing a number at a key adds what it exceeds the old one by. -/
theorem total_set (m : List (String × Nat)) (k : String) (n : Nat) :
    total (Assoc.set m k n) + (Assoc.get? m k).getD 0 = total m + n := by
  induction m with
  | nil => simp [Assoc.set, Assoc.get?, total]
  | cons p m ih =>
    obtain ⟨k', n'⟩ := p
    by_cases here : k' = k
    · simp [Assoc.set, Assoc.get?, total, here]
      omega
    · simp [Assoc.set, Assoc.get?, total, here]
      omega

theorem tally_concat (keys : List String) (k : String) :
    tally (keys ++ [k]) = Assoc.update (tally keys) k 0 (· + 1) := List.foldl_append

theorem get?_tally (keys : List String) (k : String) :
    Assoc.get? (tally keys) k = if k ∈ keys then some (keys.count k) else none := by
  induction keys using List.reverseRecOn with
  | nil => rfl
  | append_singleton keys k' ih =>
    rw [tally_concat, Assoc.update]
    by_cases here : k' = k
    · subst here
      rw [Assoc.get?_set_self, ih]
      by_cases known : k' ∈ keys
      · simp [known]
      · simp [known, List.count_eq_zero_of_not_mem known]
    · rw [Assoc.get?_set_of_ne _ _ (Ne.symm here), ih]
      simp [here, Ne.symm here]

theorem nodup_keys_tally (keys : List String) : (Assoc.keys (tally keys)).Nodup := by
  induction keys using List.reverseRecOn with
  | nil => exact List.nodup_nil
  | append_singleton keys k ih =>
    rw [tally_concat]
    exact Assoc.nodup_keys_set _ ih

theorem total_tally (keys : List String) : total (tally keys) = keys.length := by
  induction keys using List.reverseRecOn with
  | nil => rfl
  | append_singleton keys k ih =>
    have grown := total_set (tally keys) k ((Assoc.get? (tally keys) k).getD 0 + 1)
    rw [tally_concat, Assoc.update, List.length_append, List.length_singleton, ← ih]
    omega

/-- **A tally counts every key.** -/
theorem tallies_tally (keys : List String) : Tallies keys (tally keys) where
  distinct := nodup_keys_tally keys
  counts k n := by
    constructor
    · intro listed
      have held := Assoc.get?_of_mem (nodup_keys_tally keys) listed
      rw [get?_tally] at held
      split at held
      · next given => exact ⟨(Option.some.inj held).symm, given⟩
      · cases held
    · rintro ⟨rfl, given⟩
      apply Assoc.mem_of_get?
      rw [get?_tally, if_pos given]
  sum := total_tally keys

end Tallies

section Groups

variable {key : Issue → String} {is : List Issue}

/-- The groups have the keys of the issues, each once and in order. -/
theorem pairwise_keys_groupBy (key : Issue → String) (is : List Issue) :
    ((groupBy key is).map Prod.fst).Pairwise (· < ·) := by
  have keys : (groupBy key is).map Prod.fst = Text.sortUnique (is.map key) := by
    rw [groupBy, List.map_map]
    exact List.map_id _
  rw [keys]
  exact Text.pairwise_sortUnique _

theorem mem_keys_groupBy {k : String} : k ∈ (groupBy key is).map Prod.fst ↔ ∃ i ∈ is, key i = k := by
  rw [groupBy, List.map_map]
  simp [Text.mem_sortUnique]

/-- A group holds the issues with its key, in their order. -/
theorem group_eq_filter {g : String × List Issue} (mem : g ∈ groupBy key is) : g.2 = is.filter fun i => key i == g.1 := by
  obtain ⟨k, -, rfl⟩ := List.mem_map.1 mem
  rfl

theorem group_ne_nil {g : String × List Issue} (mem : g ∈ groupBy key is) : g.2 ≠ [] := by
  obtain ⟨i, given, same⟩ := mem_keys_groupBy.1 (List.mem_map_of_mem mem)
  rw [group_eq_filter mem]
  exact List.ne_nil_of_mem (List.mem_filter.2 ⟨given, beq_iff_eq.2 same⟩)

/-- **The groups together hold every issue once.** -/
theorem flatMap_groupBy_perm (key : Issue → String) (is : List Issue) : ((groupBy key is).flatMap Prod.snd).Perm is := by
  have grouped := flatMap_filter_perm key (Text.nodup_sortUnique (is.map key)) is
  rw [List.filter_eq_self.2] at grouped
  · rw [groupBy, List.flatMap_map]
    exact grouped
  · intro i given
    rw [List.contains_iff_mem]
    exact Text.mem_sortUnique.2 (List.mem_map_of_mem given)

end Groups

end DeadCode.Report
