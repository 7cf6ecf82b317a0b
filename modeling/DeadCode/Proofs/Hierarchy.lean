import DeadCode.Proofs.TableIndex
import Mathlib.Data.Finset.Card
import Mathlib.Logic.Relation

/-!
# The class hierarchy as a relation

`Reaches es x y` says that a path of edges leads from `x` to `y`. The search of the table finds exactly the names that
are reached: it never adds another one (`sound_reach`), and with a round for every edge it ends in a set that is closed
under the edges (`closed_reach`). So the names above a class are those that it reaches and the names below it those that
reach it, whatever the order of the declarations and whether or not the edges form cycles
(`mem_ancestors_descendants_iff`).
-/

namespace DeadCode.SymbolTable
set_option autoImplicit false

/-- A path of edges, possibly empty, leads from one name to the other. -/
def Reaches (es : List (String × String)) : String → String → Prop :=
  Relation.ReflTransGen fun x y => (x, y) ∈ es

section Search

variable {es : List (String × String)}

/-- The names that one round adds. -/
def freshFrom (es : List (String × String)) (x : String) (seen : List String) : List String :=
  (((es.filter (·.1 == x)).map (·.2)).filter fun y => !seen.contains y).eraseDups

theorem mem_freshFrom {x y : String} {seen : List String} :
    y ∈ freshFrom es x seen ↔ (x, y) ∈ es ∧ y ∉ seen := by
  simp [freshFrom]

theorem reach_succ (n : Nat) (x : String) (todo seen : List String) :
    reach es (n + 1) (x :: todo) seen =
      reach es n (freshFrom es x seen ++ todo) (freshFrom es x seen ++ seen) := rfl

/-- The search adds only names that are reached from those still to do. -/
theorem sound_reach {n : Nat} {todo seen : List String} {y : String} (h : y ∈ reach es n todo seen) :
    y ∈ seen ∨ ∃ x ∈ todo, Reaches es x y := by
  induction n generalizing todo seen with
  | zero => exact Or.inl h
  | succ n ih =>
    cases todo with
    | nil => exact Or.inl h
    | cons x todo =>
      rw [reach_succ] at h
      rcases ih h with old | ⟨z, pending, path⟩
      · rcases List.mem_append.1 old with new | old
        · exact Or.inr ⟨x, List.mem_cons_self, .single (mem_freshFrom.1 new).1⟩
        · exact Or.inl old
      · rcases List.mem_append.1 pending with new | pending
        · exact Or.inr ⟨x, List.mem_cons_self, .head (mem_freshFrom.1 new).1 path⟩
        · exact Or.inr ⟨z, List.mem_cons_of_mem _ pending, path⟩

theorem subset_reach (n : Nat) (todo seen : List String) : seen ⊆ reach es n todo seen := by
  induction n generalizing todo seen with
  | zero => exact fun _ h => h
  | succ n ih =>
    cases todo with
    | nil => exact fun _ h => h
    | cons x todo =>
      rw [reach_succ]
      exact fun y h => ih _ _ (List.mem_append_right _ h)

/-- How many names an edge leads to that are not seen yet. -/
def unseen (es : List (String × String)) (seen : List String) : Nat :=
  ((es.map (·.2)).toFinset \ seen.toFinset).card

theorem unseen_freshFrom (es : List (String × String)) (x : String) (seen : List String) :
    (freshFrom es x seen).length + unseen es (freshFrom es x seen ++ seen) = unseen es seen := by
  have count : (freshFrom es x seen).toFinset.card = (freshFrom es x seen).length :=
    List.toFinset_card_of_nodup (nodup_eraseDups _)
  have targets : (freshFrom es x seen).toFinset ⊆ (es.map (·.2)).toFinset \ seen.toFinset := by
    intro y h
    obtain ⟨edge, new⟩ := mem_freshFrom.1 (List.mem_toFinset.1 h)
    exact Finset.mem_sdiff.2 ⟨List.mem_toFinset.2 (List.mem_map_of_mem (f := (·.2)) edge), by simpa using new⟩
  have rest : (es.map (·.2)).toFinset \ (freshFrom es x seen ++ seen).toFinset =
      ((es.map (·.2)).toFinset \ seen.toFinset) \ (freshFrom es x seen).toFinset := by
    rw [List.toFinset_append, Finset.sdiff_sdiff_left', ← Finset.sdiff_union_distrib, Finset.union_comm]
  have le := Finset.card_le_card targets
  rw [unseen, unseen, rest, Finset.card_sdiff_of_subset targets, ← count]
  omega

/-- With enough rounds the search ends in a set that no edge leaves. The invariant is that an edge can leave what is
seen only from a name still to do. -/
theorem closed_reach {n : Nat} {todo seen : List String} (rounds : todo.length + unseen es seen ≤ n)
    (pending : ∀ x ∈ seen, x ∈ todo ∨ ∀ y, (x, y) ∈ es → y ∈ seen) :
    ∀ x ∈ reach es n todo seen, ∀ y, (x, y) ∈ es → y ∈ reach es n todo seen := by
  induction n generalizing todo seen with
  | zero =>
    have done : todo = [] := List.length_eq_zero_iff.1 (by omega)
    subst done
    intro x h y edge
    exact (pending x h).elim (fun h => by simp at h) fun closed => closed y edge
  | succ n ih =>
    cases todo with
    | nil =>
      intro x h y edge
      exact (pending x h).elim (fun h => by simp at h) fun closed => closed y edge
    | cons x todo =>
      rw [reach_succ]
      have step := unseen_freshFrom es x seen
      refine ih (by simp only [List.length_append, List.length_cons] at rounds ⊢; omega) ?_
      intro z h
      rcases List.mem_append.1 h with new | old
      · exact Or.inl (List.mem_append_left _ new)
      · rcases pending z old with todo' | closed
        · rcases List.mem_cons.1 todo' with rfl | todo'
          · refine Or.inr fun y edge => ?_
            by_cases known : y ∈ seen
            · exact List.mem_append_right _ known
            · exact List.mem_append_left _ (mem_freshFrom.2 ⟨edge, known⟩)
          · exact Or.inl (List.mem_append_right _ todo')
        · exact Or.inr fun y edge => List.mem_append_right _ (closed y edge)

/-- The search adds no name twice. -/
theorem nodup_reach {n : Nat} {todo seen : List String} (distinct : seen.Nodup) : (reach es n todo seen).Nodup := by
  induction n generalizing todo seen with
  | zero => exact distinct
  | succ n ih =>
    cases todo with
    | nil => exact distinct
    | cons x todo =>
      rw [reach_succ]
      apply ih
      rw [List.nodup_append]
      refine ⟨nodup_eraseDups _, distinct, ?_⟩
      rintro y new _ old rfl
      exact (mem_freshFrom.1 new).2 old

theorem nodup_reachable (es : List (String × String)) (x : String) : (reachable es x).Nodup :=
  (nodup_reach (List.nodup_singleton x)).filter _

theorem unseen_le (es : List (String × String)) (seen : List String) : unseen es seen ≤ es.length :=
  calc unseen es seen ≤ (es.map (·.2)).toFinset.card := Finset.card_le_card Finset.sdiff_subset
    _ ≤ (es.map (·.2)).length := List.toFinset_card_le _
    _ = es.length := List.length_map _

/-- The search finds exactly the names that are reached. -/
theorem mem_reachable_iff {x y : String} : y ∈ reachable es x ↔ y ≠ x ∧ Reaches es x y := by
  have start : x ∈ reach es (es.length + 1) [x] [x] := subset_reach _ _ _ List.mem_cons_self
  have closed : ∀ a ∈ reach es (es.length + 1) [x] [x], ∀ b, (a, b) ∈ es → b ∈ reach es (es.length + 1) [x] [x] := by
    refine closed_reach ?_ fun a h => Or.inl h
    have bound := unseen_le es [x]
    simp only [List.length_cons, List.length_nil]
    omega
  rw [reachable, List.mem_filter, bne_iff_ne, and_comm]
  refine and_congr_right' ⟨fun found => ?_, fun path => ?_⟩
  · rcases sound_reach found with h | ⟨z, h, path⟩
    · rw [List.mem_singleton.1 h]
      exact .refl
    · rwa [List.mem_singleton.1 h] at path
  · induction path with
    | refl => exact start
    | tail _ edge ih => exact closed _ ih _ edge

end Search

theorem reaches_swap {es : List (String × String)} {x y : String} :
    Reaches (es.map fun e => (e.2, e.1)) x y ↔ Reaches es y x := by
  have flip : (fun a b => (a, b) ∈ es.map fun e => (e.2, e.1)) = Function.swap fun a b => (a, b) ∈ es := by
    funext a b
    simp [Function.swap]
  rw [Reaches, flip, Relation.reflTransGen_swap, Reaches]

/-- A class-like symbol of the first name extends, implements or uses the second one. Names are in small letters, and
the second one need not be declared. -/
def BuildsOn (t : SymbolTable) (x y : String) : Prop :=
  ∃ s ∈ t.symbols, s.kind.isClassLike = true ∧ Text.lower s.fqn = x ∧ ∃ p ∈ s.supertypes, Text.lower p = y

theorem mem_edges_iff_buildsOn {t : SymbolTable} {x y : String} : (x, y) ∈ t.edges ↔ t.BuildsOn x y := t.holds.edges x y

theorem reaches_edges_iff {t : SymbolTable} {x y : String} :
    Reaches t.edges x y ↔ x = y ∨ Relation.TransGen t.BuildsOn x y := by
  simp only [Reaches, mem_edges_iff_buildsOn]
  rw [Relation.reflTransGen_iff_eq_or_transGen, eq_comm]

/-- The name stands in the hierarchy: a class-like symbol has it, or builds on it. -/
def HasNode (t : SymbolTable) (x : String) : Prop :=
  ∃ s ∈ t.symbols, s.kind.isClassLike = true ∧ (Text.lower s.fqn = x ∨ ∃ p ∈ s.supertypes, Text.lower p = x)

instance (t : SymbolTable) (x : String) : Decidable (t.HasNode x) := inferInstanceAs (Decidable (∃ s ∈ t.symbols, _))

theorem BuildsOn.hasNode {t : SymbolTable} {x y : String} (edge : t.BuildsOn x y) : t.HasNode x ∧ t.HasNode y := by
  obtain ⟨s, given, classLike, name, above⟩ := edge
  exact ⟨⟨s, given, classLike, Or.inl name⟩, ⟨s, given, classLike, Or.inr above⟩⟩

/-- Both ends of a path stand in the hierarchy. -/
theorem hasNode_of_transGen {t : SymbolTable} {x y : String} (path : Relation.TransGen t.BuildsOn x y) :
    t.HasNode x ∧ t.HasNode y := by
  induction path with
  | single edge => exact edge.hasNode
  | tail _ edge ih => exact ⟨ih.1, edge.hasNode.2⟩

theorem mem_nodes_iff_hasNode {t : SymbolTable} {x : String} : x ∈ t.index.hierarchy.nodes ↔ t.HasNode x := t.holds.nodes x

/-- The guard for names that are not in the hierarchy drops nothing: no edge touches them. -/
theorem mem_ancestors_iff {t : SymbolTable} {fqn x : String} :
    x ∈ t.ancestors fqn ↔ x ≠ Text.lower fqn ∧ Reaches t.edges (Text.lower fqn) x := by
  unfold ancestors
  split
  · exact mem_reachable_iff
  · next unknown =>
    refine iff_of_false List.not_mem_nil fun ⟨other, path⟩ => ?_
    have above := (reaches_edges_iff.1 path).resolve_left other.symm
    exact unknown (List.contains_iff_mem.2 (mem_nodes_iff_hasNode.2 (hasNode_of_transGen above).1))

theorem mem_descendants_iff {t : SymbolTable} {fqn x : String} :
    x ∈ t.descendants fqn ↔ x ≠ Text.lower fqn ∧ Reaches t.edges x (Text.lower fqn) := by
  unfold descendants
  split
  · rw [mem_reachable_iff, reaches_swap]
  · next unknown =>
    refine iff_of_false List.not_mem_nil fun ⟨other, path⟩ => ?_
    have below := (reaches_edges_iff.1 path).resolve_left other
    exact unknown (List.contains_iff_mem.2 (mem_nodes_iff_hasNode.2 (hasNode_of_transGen below).2))

theorem nodup_ancestors_descendants (t : SymbolTable) (fqn : String) : (t.ancestors fqn).Nodup ∧ (t.descendants fqn).Nodup := by
  unfold ancestors descendants
  split
  · exact ⟨nodup_reachable _ _, nodup_reachable _ _⟩
  · exact ⟨List.nodup_nil, List.nodup_nil⟩

/-- The family of a class is what is comparable with it in the hierarchy. -/
theorem mem_family_iff {t : SymbolTable} {fqn x : String} :
    x ∈ t.family fqn ↔ Reaches t.edges (Text.lower fqn) x ∨ Reaches t.edges x (Text.lower fqn) := by
  rw [family, List.mem_eraseDups, List.mem_append, List.mem_cons, mem_ancestors_iff, mem_descendants_iff]
  by_cases own : x = Text.lower fqn
  · subst own
    exact iff_of_true (Or.inl (Or.inl rfl)) (Or.inl .refl)
  · simp [own]

theorem reaches_edges_of_ne {t : SymbolTable} {x y : String} (other : x ≠ y) :
    Reaches t.edges x y ↔ Relation.TransGen t.BuildsOn x y := by
  rw [reaches_edges_iff, or_iff_right other]

/-- **Hierarchy queries are reachability.** Whether or not the edges form cycles, the names above a class are the other
nodes that a path of one edge or more leads to, and those below it the other nodes that such a path comes from, each
once. A name that does not stand in the hierarchy has neither. So being above and being below are converse, and being of
one family is symmetric. -/
theorem mem_ancestors_descendants_iff (t : SymbolTable) :
    (∀ x y, y ∈ t.ancestors x ↔
        t.HasNode y ∧ y ≠ Text.lower x ∧ Relation.TransGen t.BuildsOn (Text.lower x) y) ∧
      (∀ x y, y ∈ t.descendants x ↔
        t.HasNode y ∧ y ≠ Text.lower x ∧ Relation.TransGen t.BuildsOn y (Text.lower x)) ∧
      (∀ x, (t.ancestors x).Nodup ∧ (t.descendants x).Nodup) ∧
      (∀ x, ¬t.HasNode (Text.lower x) → t.ancestors x = [] ∧ t.descendants x = []) ∧
      (∀ a b, Text.lower b ∈ t.ancestors a ↔ Text.lower a ∈ t.descendants b) ∧
      ∀ a b, Text.lower b ∈ t.family a ↔ Text.lower a ∈ t.family b := by
  have above : ∀ x y, y ∈ t.ancestors x ↔
      t.HasNode y ∧ y ≠ Text.lower x ∧ Relation.TransGen t.BuildsOn (Text.lower x) y := by
    intro x y
    rw [mem_ancestors_iff]
    constructor
    · rintro ⟨other, path⟩
      have path := (reaches_edges_of_ne other.symm).1 path
      exact ⟨(hasNode_of_transGen path).2, other, path⟩
    · rintro ⟨-, other, path⟩
      exact ⟨other, (reaches_edges_of_ne other.symm).2 path⟩
  have below : ∀ x y, y ∈ t.descendants x ↔
      t.HasNode y ∧ y ≠ Text.lower x ∧ Relation.TransGen t.BuildsOn y (Text.lower x) := by
    intro x y
    rw [mem_descendants_iff]
    constructor
    · rintro ⟨other, path⟩
      have path := (reaches_edges_of_ne other).1 path
      exact ⟨(hasNode_of_transGen path).1, other, path⟩
    · rintro ⟨-, other, path⟩
      exact ⟨other, (reaches_edges_of_ne other).2 path⟩
  refine ⟨above, below, t.nodup_ancestors_descendants, fun x unknown => ⟨?_, ?_⟩, fun a b => ?_,
    fun a b => ?_⟩
  · refine List.eq_nil_iff_forall_not_mem.2 fun y mem => unknown ?_
    exact (hasNode_of_transGen ((above x y).1 mem).2.2).1
  · refine List.eq_nil_iff_forall_not_mem.2 fun y mem => unknown ?_
    exact (hasNode_of_transGen ((below x y).1 mem).2.2).2
  · rw [mem_ancestors_iff, mem_descendants_iff, ne_comm]
  · rw [mem_family_iff, mem_family_iff, or_comm]

/-- Two classes that extend each other, one that extends itself, and one whose parent is not declared. -/
def looped : SymbolTable := .ofSymbols [
  { kind := .classType, name := "A", parents := ["b"] }, { kind := .classType, name := "B", parents := ["A"] },
  { kind := .classType, name := "C", parents := ["c"] }, { kind := .classType, name := "D", parents := ["B", "E"] },
  { kind := .function, name := "f" }]

theorem mem_ancestors_descendants_looped :
    ¬looped.HasNode (Text.lower "F") ∧ looped.ancestors "F" = [] ∧ looped.descendants "F" = [] ∧
      ("e" ∈ looped.ancestors "D" ↔ "d" ∈ looped.descendants "E") ∧
      looped.ancestors "A" = ["b"] ∧ looped.descendants "A" = ["d", "b"] ∧ looped.ancestors "C" = [] := by
  have unknown : ¬looped.HasNode (Text.lower "F") := by decide +kernel
  obtain ⟨-, -, -, none, converse, -⟩ := mem_ancestors_descendants_iff looped
  have letters : Text.lower "E" = "e" ∧ Text.lower "D" = "d" := by decide +kernel
  have edge := converse "D" "E"
  rw [letters.1, letters.2] at edge
  exact ⟨unknown, (none "F" unknown).1, (none "F" unknown).2, edge, by decide +kernel, by decide +kernel, by decide +kernel⟩

/-- The two class names differ, case aside, and no path of one step or more leads from either of them to the other. -/
def Unrelated (t : SymbolTable) (a b : String) : Prop :=
  Text.lower a ≠ Text.lower b ∧ ¬Relation.TransGen t.BuildsOn (Text.lower a) (Text.lower b) ∧
    ¬Relation.TransGen t.BuildsOn (Text.lower b) (Text.lower a)

theorem not_mem_family_iff {t : SymbolTable} {a b : String} : Text.lower a ∉ t.family b ↔ t.Unrelated a b := by
  rw [mem_family_iff, reaches_edges_iff, reaches_edges_iff, Unrelated]
  tauto

/-- Tables with the same edges have the same families. -/
theorem mem_family_congr {t t' : SymbolTable} (h : ∀ e, e ∈ t.edges ↔ e ∈ t'.edges) {fqn x : String} :
    x ∈ t.family fqn ↔ x ∈ t'.family fqn := by
  have same : Reaches t.edges = Reaches t'.edges := by
    unfold Reaches
    simp only [h]
  rw [mem_family_iff, mem_family_iff, same]

end DeadCode.SymbolTable
