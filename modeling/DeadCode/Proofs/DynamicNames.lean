import DeadCode.Proofs.ReferenceChanges

/-!
# Names computed at run time

A reference whose name is computed at run time keeps nothing in use. References of this sort can be deleted at will, and
no finding comes or goes (`sameFindings_of_drops_dynamic`). The one thing that counts of them is the class before a double
colon, as in `X::$m()`, and only for the rules that ask whether a class is in use.
-/

namespace DeadCode
set_option autoImplicit false

/-- The second list is the first one without some of the members that have the property, at whatever places. -/
inductive Drops {α : Type} (p : α → Prop) : List α → List α → Prop
  | nil : Drops p [] []
  | keep (a : α) {as bs : List α} : Drops p as bs → Drops p (a :: as) (a :: bs)
  | drop {a : α} {as bs : List α} : p a → Drops p as bs → Drops p (a :: as) bs

namespace Drops

variable {α : Type} {p : α → Prop} {as bs : List α}

theorem subset (drops : Drops p as bs) : bs ⊆ as := by
  induction drops with
  | nil => exact fun _ given => given
  | keep a _ ih => exact List.cons_subset_cons a ih
  | drop _ _ ih => exact List.subset_cons_of_subset _ ih

theorem mem_or (drops : Drops p as bs) {a : α} (given : a ∈ as) : a ∈ bs ∨ p a := by
  induction drops with
  | nil => cases given
  | keep b _ ih =>
    rcases List.mem_cons.1 given with rfl | later
    · exact Or.inl List.mem_cons_self
    · exact (ih later).imp_left (List.mem_cons_of_mem b)
  | drop gone _ ih =>
    rcases List.mem_cons.1 given with rfl | later
    · exact Or.inr gone
    · exact ih later

end Drops

namespace Context

variable {c : Context} {rs : List Reference} {rule : Rule}

/-- References that a rule does not read can be deleted. -/
theorem sameFindings_of_drops (owned : c.Owned) {p : Reference → Prop} (drops : Drops p c.references rs)
    (unread : ∀ r, p r → ¬rule.Reads r) : c.SameFindings (c.withReferences rs) rule := by
  refine sameFindings_of_shows owned (Rule.shows_of_readsAs fun r given reads => ?_) (Rule.shows_of_subset drops.subset rule)
  exact ⟨r, (drops.mem_or given).resolve_right fun gone => unread r gone reads, .refl r⟩

/-- **Names computed at run time keep nothing in use.** Deleting any references with such names changes no finding about
functions, members, constants, imports and packages. If those with a class before a double colon stay, it changes no
finding of any rule. -/
theorem sameFindings_of_drops_dynamic (owned : c.Owned) (rs : List Reference) :
    (Drops (fun r => r.isDynamic = true) c.references rs →
      ∀ rule ∈ [Rule.functions, .methods, .properties, .constants, .imports, .dependencies],
        c.SameFindings (c.withReferences rs) rule) ∧
    (Drops (fun r => r.isDynamic = true ∧ ¬(r.kind.namesOwner = true ∧ r.parent?.isSome = true)) c.references rs →
      ∀ rule, c.SameFindings (c.withReferences rs) rule) := by
  constructor
  · intro drops rule about
    refine sameFindings_of_drops owned drops fun r dynamic reads => ?_
    rcases reads with known | ⟨class_, -⟩
    · simp [known] at dynamic
    · simp only [List.mem_cons, List.not_mem_nil, or_false] at about class_
      rcases about with rfl | rfl | rfl | rfl | rfl | rfl <;> simp at class_
  · intro drops rule
    refine sameFindings_of_drops owned drops fun r ⟨dynamic, nameless⟩ reads => ?_
    rcases reads with known | ⟨-, owner⟩
    · simp [known] at dynamic
    · exact nameless owner

/-- A class with a private property, and a function. All of them are named, but only by names computed at run time. -/
def haunted : Context := {
  table := .ofSymbols [
    { kind := .classType, name := "A", file := "a.php", startLine := 2 },
    { kind := .property, name := "p", file := "a.php", startLine := 3, visibility := some "private", owner := some "A" },
    { kind := .function, name := "f", file := "a.php", startLine := 5 }]
  references := [
    { kind := .instantiation, name := "A", file := "b.php", isDynamic := true },
    { kind := .staticProperty, name := "p", parent := some "A", file := "b.php", isDynamic := true },
    { kind := .propertyAccess, name := "p", parent := some "A", file := "b.php", isDynamic := true },
    { kind := .functionCall, name := "f", file := "b.php", isDynamic := true }] }

theorem sameFindings_haunted : haunted.Owned ∧
    Drops (fun r => r.isDynamic = true) haunted.references [] ∧
    (∀ rule ∈ [Rule.functions, .methods, .properties, .constants, .imports, .dependencies],
      haunted.SameFindings (haunted.withReferences []) rule) ∧
    Drops (fun r => r.isDynamic = true ∧ ¬(r.kind.namesOwner = true ∧ r.parent?.isSome = true)) haunted.references
      [{ kind := .staticProperty, name := "p", parent := some "A", file := "b.php", isDynamic := true }] ∧
    ∀ rule, haunted.SameFindings (haunted.withReferences
      [{ kind := .staticProperty, name := "p", parent := some "A", file := "b.php", isDynamic := true }]) rule := by
  have owned : haunted.Owned := by
    unfold Owned
    decide
  have all : Drops (fun r => r.isDynamic = true) haunted.references [] :=
    .drop rfl (.drop rfl (.drop rfl (.drop rfl .nil)))
  have others : Drops (fun r => r.isDynamic = true ∧ ¬(r.kind.namesOwner = true ∧ r.parent?.isSome = true))
      haunted.references [{ kind := .staticProperty, name := "p", parent := some "A", file := "b.php", isDynamic := true }] :=
    .drop (by decide) (.keep _ (.drop (by decide) (.drop (by decide) .nil)))
  exact ⟨owned, all, (sameFindings_of_drops_dynamic owned _).1 all, others, (sameFindings_of_drops_dynamic owned _).2 others⟩

end Context
end DeadCode
