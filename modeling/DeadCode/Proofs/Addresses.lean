import DeadCode.Syntax.Verdict
import Mathlib.Data.List.Lex
import Mathlib.Data.List.Pairwise

/-!
# Addresses in a tree

The address of a node is the list of the positions that lead to it from the root. In document order a node comes before what is
below it, and what is below one of its children before what is below a later one: that is the order of the addresses as words
(`Precedes`). `addressed` lists the nodes of a tree with their addresses. It goes through exactly the nodes that an address leads
to (`mem_addressed`), each once and in document order (`pairwise_addressed`). So a search through `preorder` ends at the first
node of its kind (`find?_preorder_eq_some_iff`).
-/

namespace DeadCode.Node
set_option autoImplicit false

/-- The node that an address leads to. -/
def at? (n : Node) : List Nat → Option Node
  | [] => some n
  | k :: ks => n.children[k]?.bind fun c => c.at? ks

/-- Document order of addresses. -/
def Precedes (a b : List Nat) : Prop := List.Lex (· < ·) a b

mutual

/-- The nodes of a tree in document order, each with its address, if the root has the address `a`. -/
def addressed (a : List Nat) : Node → List (List Nat × Node)
  | .mk i cs => (a, .mk i cs) :: addressedAll a 0 cs

/-- The same for children of a node at `a` that are left, the first of them at position `k`. -/
def addressedAll (a : List Nat) (k : Nat) : List Node → List (List Nat × Node)
  | [] => []
  | c :: cs => addressed (a ++ [k]) c ++ addressedAll a (k + 1) cs

end

section Order

variable {a b : List Nat} {k j : Nat}

theorem precedes_below (a : List Nat) (k : Nat) (b : List Nat) : Precedes a (a ++ k :: b) := by
  have below : Precedes (a ++ []) (a ++ k :: b) := List.Lex.nil.append_left (· < ·) a
  rwa [List.append_nil] at below

theorem precedes_beside (a : List Nat) (lt : k < j) (b b' : List Nat) : Precedes (a ++ k :: b) (a ++ j :: b') :=
  (List.Lex.rel lt).append_left (· < ·) a

theorem not_precedes_self (a : List Nat) : ¬Precedes a a := by
  intro before
  exact List.lex_irrefl Nat.lt_irrefl a before

theorem Precedes.asymm (before : Precedes a b) : ¬Precedes b a := by
  intro after
  exact List.lex_asymm (fun lt => Nat.lt_asymm lt) before after

end Order

section Members

mutual

theorem map_snd_addressed (a : List Nat) : (n : Node) → (n.addressed a).map (·.2) = n.preorder
  | .mk i cs => by rw [addressed, preorder, List.map_cons, map_snd_addressedAll]

theorem map_snd_addressedAll (a : List Nat) (k : Nat) :
    (cs : List Node) → (addressedAll a k cs).map (·.2) = preorderAll cs
  | [] => rfl
  | c :: cs => by rw [addressedAll, preorderAll, List.map_append, map_snd_addressed, map_snd_addressedAll]

end

mutual

/-- The listed nodes are those that the addresses lead to. -/
theorem mem_addressed {b : List Nat} {m : Node} (a : List Nat) :
    (n : Node) → ((b, m) ∈ n.addressed a ↔ ∃ c, b = a ++ c ∧ n.at? c = some m)
  | .mk i cs => by
    rw [addressed, List.mem_cons, mem_addressedAll]
    constructor
    · rintro (here | ⟨j, x, c, child, eq, found⟩)
      · obtain ⟨rfl, rfl⟩ := Prod.mk.inj here
        exact ⟨[], (List.append_nil b).symm, rfl⟩
      · refine ⟨j :: c, by simpa using eq, ?_⟩
        rw [at?, children, child, Option.bind_some, found]
    · rintro ⟨c, rfl, found⟩
      cases c with
      | nil =>
        obtain rfl := Option.some.inj found
        exact Or.inl (by rw [List.append_nil])
      | cons j c =>
        rw [at?, children] at found
        obtain ⟨x, child, found⟩ := Option.bind_eq_some_iff.1 found
        exact Or.inr ⟨j, x, c, child, by rw [Nat.zero_add], found⟩

theorem mem_addressedAll {b : List Nat} {m : Node} (a : List Nat) (k : Nat) :
    (cs : List Node) → ((b, m) ∈ addressedAll a k cs ↔
      ∃ j x c, cs[j]? = some x ∧ b = a ++ (k + j) :: c ∧ x.at? c = some m)
  | [] => by simp [addressedAll]
  | d :: cs => by
    rw [addressedAll, List.mem_append, mem_addressed, mem_addressedAll]
    constructor
    · rintro (⟨c, rfl, found⟩ | ⟨j, x, c, child, rfl, found⟩)
      · exact ⟨0, d, c, rfl, by simp, found⟩
      · exact ⟨j + 1, x, c, child, by rw [Nat.add_assoc, Nat.add_comm 1 j], found⟩
    · rintro ⟨j, x, c, child, rfl, found⟩
      cases j with
      | zero =>
        obtain rfl := Option.some.inj child
        exact Or.inl ⟨c, by simp, found⟩
      | succ j => exact Or.inr ⟨j, x, c, child, by rw [Nat.add_assoc, Nat.add_comm 1 j], found⟩

end

theorem mem_addressed_nil {root n : Node} {a : List Nat} : (a, n) ∈ root.addressed [] ↔ root.at? a = some n := by
  rw [mem_addressed]
  constructor
  · rintro ⟨c, rfl, found⟩
    exact found
  · intro found
    exact ⟨a, rfl, found⟩

theorem mem_preorder_iff {root n : Node} : n ∈ root.preorder ↔ ∃ a, root.at? a = some n := by
  rw [← map_snd_addressed [] root, List.mem_map]
  constructor
  · rintro ⟨⟨a, n⟩, mem, rfl⟩
    exact ⟨a, mem_addressed_nil.1 mem⟩
  · rintro ⟨a, found⟩
    exact ⟨(a, n), mem_addressed_nil.2 found, rfl⟩

mutual

/-- The addresses are listed in document order, and each of them once. -/
theorem pairwise_addressed (a : List Nat) : (n : Node) → (n.addressed a).Pairwise fun x y => Precedes x.1 y.1
  | .mk i cs => by
    rw [addressed, List.pairwise_cons]
    refine ⟨?_, pairwise_addressedAll a 0 cs⟩
    rintro ⟨b, m⟩ mem
    obtain ⟨j, -, c, -, rfl, -⟩ := (mem_addressedAll a 0 cs).1 mem
    exact precedes_below a _ c

theorem pairwise_addressedAll (a : List Nat) (k : Nat) :
    (cs : List Node) → (addressedAll a k cs).Pairwise fun x y => Precedes x.1 y.1
  | [] => List.Pairwise.nil
  | c :: cs => by
    rw [addressedAll, List.pairwise_append]
    refine ⟨pairwise_addressed (a ++ [k]) c, pairwise_addressedAll a (k + 1) cs, ?_⟩
    rintro ⟨b, m⟩ first ⟨b', m'⟩ later
    obtain ⟨x, rfl, -⟩ := (mem_addressed (a ++ [k]) c).1 first
    obtain ⟨j, -, y, -, rfl, -⟩ := (mem_addressedAll a (k + 1) cs).1 later
    rw [List.append_assoc]
    exact precedes_beside a (by omega) x y

end

end Members

/-- The first node of a kind: an address leads to it, and to others of the kind only later ones lead. -/
structure FirstAt (root : Node) (p : Node → Prop) (a : List Nat) (n : Node) : Prop where
  found : root.at? a = some n
  holds : p n
  first : ∀ b m, root.at? b = some m → p m → b = a ∨ Precedes a b

section Search

variable {root n : Node} {p : Node → Bool} {P : Node → Prop}

/-- A search in document order ends at the first node of a kind. -/
theorem find?_preorder_eq_some_iff (tests : ∀ m, p m = true ↔ P m) :
    root.preorder.find? p = some n ↔ ∃ a, root.FirstAt P a n := by
  have sorted := pairwise_addressed [] root
  rw [← map_snd_addressed [] root, List.find?_map]
  constructor
  · intro search
    obtain ⟨⟨a, m⟩, hit, rfl⟩ := Option.map_eq_some_iff.1 search
    obtain ⟨holds, before, after, split, none⟩ := List.find?_eq_some_iff_append.1 hit
    have listed : (a, m) ∈ root.addressed [] := split ▸ by simp
    refine ⟨a, mem_addressed_nil.1 listed, (tests m).1 holds, fun b m' found holds' => ?_⟩
    have mem : (b, m') ∈ before ++ (a, m) :: after := split ▸ mem_addressed_nil.2 found
    rw [split] at sorted
    rcases List.mem_append.1 mem with early | late
    · exact absurd ((tests m').2 holds') (by simpa using none _ early)
    · rcases List.mem_cons.1 late with same | late
      · exact Or.inl (Prod.mk.inj same).1
      · exact Or.inr ((List.pairwise_cons.1 (List.pairwise_append.1 sorted).2.1).1 _ late)
  · rintro ⟨a, found, holds, first⟩
    obtain ⟨before, after, split⟩ := List.append_of_mem (mem_addressed_nil.2 found)
    rw [split] at sorted
    have skipped : ∀ x ∈ before, (!p x.2) = true := by
      rintro ⟨b, m⟩ early
      have ahead : Precedes b a := (List.pairwise_append.1 sorted).2.2 _ early _ List.mem_cons_self
      have there : root.at? b = some m := mem_addressed_nil.1 (split ▸ List.mem_append_left _ early)
      rw [Bool.not_eq_true']
      refine Bool.eq_false_iff.2 fun holds' => ?_
      rcases first b m there ((tests m).1 holds') with rfl | behind
      · exact not_precedes_self b ahead
      · exact ahead.asymm behind
    have search : (root.addressed []).find? (p ∘ (·.2)) = some (a, n) :=
      List.find?_eq_some_iff_append.2 ⟨(tests n).2 holds, before, after, split, skipped⟩
    rw [search]
    rfl

theorem find?_preorder_eq_none_iff (tests : ∀ m, p m = true ↔ P m) :
    root.preorder.find? p = none ↔ ∀ a m, root.at? a = some m → ¬P m := by
  rw [List.find?_eq_none]
  constructor
  · intro none a m found holds
    exact none m (mem_preorder_iff.2 ⟨a, found⟩) ((tests m).2 holds)
  · intro none m mem holds
    obtain ⟨a, found⟩ := mem_preorder_iff.1 mem
    exact none a m found ((tests m).1 holds)

end Search

end DeadCode.Node
