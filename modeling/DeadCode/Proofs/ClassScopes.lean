import DeadCode.Collect.References
import DeadCode.Collect.Symbols
import Mathlib.Data.List.Basic

/-!
# Classes around the nodes of a walk

The class of a scope is none, the one that stands for all classes without a name, or a class-like node that the walk has met
by then (`classesMet_visits`, `currentClass_of_mem_visits`). Every class-like node gives a symbol, every reference tells the
class of its scope, and what a node declares depends on the walk only through the classes that are ignored (`mem_symbols`).
-/

namespace DeadCode.Collect
set_option autoImplicit false

/-- The full name of a class-like node. -/
def Visit.className (v : Visit) : String := Name.qualify v.scope.space (v.node.childText "name")

/-- A class that a scope may be in: none, one without a name, or a class-like node of the walk. -/
def ClassAmong (vs : List Visit) (c : Option String) : Prop :=
  c = none ∨ c = some anonymousClass ∨ ∃ w ∈ vs, w.node.isClassLike = true ∧ c = some w.className

theorem ClassAmong.mono {vs ws : List Visit} {c : Option String} (sub : vs ⊆ ws) (h : ClassAmong vs c) :
    ClassAmong ws c := by
  rcases h with none | anonymous | ⟨w, mem, like, eq⟩
  · exact Or.inl none
  · exact Or.inr (Or.inl anonymous)
  · exact Or.inr (Or.inr ⟨w, sub mem, like, eq⟩)

section Scopes

theorem currentClass_withImports (s : Scope) (us : List Import) : (s.withImports us).currentClass = s.currentClass := by
  induction us generalizing s with
  | nil => rfl
  | cons u us ih =>
    have one : (s.withImport u).currentClass = s.currentClass := by
      rw [Scope.withImport]
      repeat' split
      all_goals rfl
    exact (ih (s.withImport u)).trans one

theorem currentClass_scopeAfter (file : String) (s : Scope) (n : Node) :
    (scopeAfter file s n).currentClass = s.currentClass := by
  rw [scopeAfter]
  split
  · exact currentClass_withImports s _
  · rfl

theorem currentClass_scopeFrom (s : Scope) (n : Node) :
    (scopeFrom s n).currentClass = s.currentClass ∨ (scopeFrom s n).currentClass = none := by
  rw [scopeFrom]
  split
  · exact Or.inr rfl
  · exact Or.inl rfl

/-- Below a node the class is as before, unless the node is a namespace or a class. -/
theorem currentClass_scopeBelow (v : Visit) :
    (scopeBelow v.node v.scope).currentClass = v.scope.currentClass ∨
      ClassAmong [v] (scopeBelow v.node v.scope).currentClass := by
  rw [scopeBelow]
  split
  · exact Or.inr (Or.inl rfl)
  split
  · next like => exact Or.inr (Or.inr (Or.inr ⟨v, List.mem_singleton_self v, like, rfl⟩))
  split
  · exact Or.inr (Or.inr (Or.inl rfl))
  split
  · exact Or.inl rfl
  · exact Or.inl rfl

/-- Every class that a scope of the walk is in has been met by then: among the nodes seen before, or further up. -/
def ClassesMet (seen : List Visit) : List Visit → Prop
  | [] => True
  | v :: vs => ClassAmong seen v.scope.currentClass ∧ ClassesMet (v :: seen) vs

theorem classesMet_append (seen vs ws : List Visit) :
    ClassesMet seen (vs ++ ws) ↔ ClassesMet seen vs ∧ ClassesMet (vs.reverse ++ seen) ws := by
  induction vs generalizing seen with
  | nil => simp [ClassesMet]
  | cons v vs ih => simp [ClassesMet, ih, and_assoc]

mutual

theorem classesMet_visitsOf (file : String) (around : List Place) (earlier : List Node) (scope : Scope) (seen : List Visit)
    (met : ClassAmong seen scope.currentClass) :
    (n : Node) → ClassesMet seen (visitsOf file around earlier scope n)
  | .mk i cs => by
    rw [visitsOf]
    refine ⟨met, classesMet_visitsOfChildren file _ _ _ _ _ ?_ cs⟩
    rcases currentClass_scopeBelow ⟨.mk i cs, earlier, scope, around⟩ with same | here
    · rw [same]
      exact met.mono (List.subset_cons_self ..)
    · exact here.mono (List.cons_subset_cons _ (List.nil_subset _))

theorem classesMet_visitsOfChildren (file : String) (around : List Place) (statements : Bool) (earlier : List Node)
    (scope : Scope) (seen : List Visit) (met : ClassAmong seen scope.currentClass) :
    (cs : List Node) → ClassesMet seen (visitsOfChildren file around statements earlier scope cs)
  | [] => trivial
  | c :: cs => by
    -- a namespace statement may start afresh before the child
    have start : ClassAmong seen (scopeFrom scope c).currentClass := by
      rcases currentClass_scopeFrom scope c with same | none
      · rwa [same]
      · exact Or.inl none
    rw [visitsOfChildren]
    split
    · refine (classesMet_append ..).2 ⟨classesMet_visitsOf file _ _ _ seen start c, ?_⟩
      apply classesMet_visitsOfChildren
      rw [currentClass_scopeAfter]
      exact start.mono (List.subset_append_right ..)
    · refine (classesMet_append ..).2 ⟨classesMet_visitsOf file _ _ _ seen met c, ?_⟩
      apply classesMet_visitsOfChildren
      exact met.mono (List.subset_append_right ..)

end

theorem classesMet_visits (file : String) (root : Node) : ClassesMet [] (visits file root) :=
  classesMet_visitsOf file [] [] {} [] (Or.inl rfl) root

/-- **The class around a node is none, has no name, or is a node of the walk.** -/
theorem currentClass_of_mem_visits {file : String} {root : Node} {v : Visit} (h : v ∈ visits file root) :
    ClassAmong (visits file root) v.scope.currentClass := by
  have met := classesMet_visits file root
  obtain ⟨before, after, eq⟩ := List.append_of_mem h
  rw [eq, classesMet_append] at met
  rw [eq]
  apply met.2.1.mono
  simp

end Scopes

section Symbols

variable {file : String}

/-- Whatever a tree declares, one of its nodes declares. -/
theorem mem_foldl_step {s : Symbol} (vs : List Visit) (d : Declared) (h : s ∈ (vs.foldl (Declared.step file) d).symbols) :
    s ∈ d.symbols ∨ ∃ v ∈ vs, ∃ ignores, s ∈ symbolsAt file ignores v := by
  induction vs generalizing d with
  | nil => exact Or.inl h
  | cons v vs ih =>
    rcases ih (d.step file v) h with old | ⟨w, mem, new⟩
    · rcases List.mem_append.1 old with here | old
      · exact Or.inr ⟨v, List.mem_cons_self, d.ignores, List.mem_reverse.1 here⟩
      · exact Or.inl old
    · exact Or.inr ⟨w, List.mem_cons_of_mem v mem, new⟩

theorem mem_symbols {s : Symbol} {root : Node} (h : s ∈ symbols file root) :
    ∃ v ∈ visits file root, ∃ ignores, s ∈ symbolsAt file ignores v := by
  rcases mem_foldl_step (visits file root) {} (List.mem_reverse.1 h) with none | found
  · simp at none
  · exact found

theorem subset_foldl_step (vs : List Visit) (d : Declared) : d.symbols ⊆ (vs.foldl (Declared.step file) d).symbols := by
  induction vs generalizing d with
  | nil => exact List.Subset.refl _
  | cons v vs ih =>
    exact List.Subset.trans (List.subset_append_right ..) (ih (d.step file v))

/-- Every class-like node is declared. -/
theorem classSymbol_mem_symbols {v : Visit} {root : Node} (h : v ∈ visits file root) (like : v.node.isClassLike = true) :
    classSymbol file v ∈ symbols file root := by
  obtain ⟨before, after, eq⟩ := List.append_of_mem h
  rw [symbols, List.mem_reverse, eq, List.foldl_append, List.foldl_cons]
  apply subset_foldl_step
  exact List.mem_append_left _ (by simp [symbolsAt, like])

/-- The marks that a declaration can bear. -/
def marks : List (List (String × Json)) :=
  [[], [("promoted", .bool true)], [("enum_case", .bool true)], [("defined_with", .str "define")]]

theorem metadata_propertySymbols {ignores : ClassIgnores} {v : Visit} {s : Symbol}
    (h : s ∈ propertySymbols file ignores v) : s.metadata = [] := by
  obtain ⟨e, -, eq⟩ := List.mem_filterMap.1 h
  obtain ⟨target, -, rfl⟩ := Option.map_eq_some_iff.1 eq
  rfl

theorem metadata_constantSymbols {ignores : ClassIgnores} {v : Visit} {s : Symbol}
    (h : s ∈ constantSymbols file ignores v) : s.metadata = [] := by
  obtain ⟨e, -, eq⟩ := List.mem_filterMap.1 h
  obtain ⟨name, -, rfl⟩ := Option.map_eq_some_iff.1 eq
  rfl

theorem metadata_enumCaseSymbol? {ignores : ClassIgnores} {v : Visit} {s : Symbol}
    (h : enumCaseSymbol? file ignores v = some s) : s.metadata = [("enum_case", .bool true)] := by
  obtain ⟨name, -, rfl⟩ := Option.map_eq_some_iff.1 h
  rfl

theorem metadata_definedSymbol? {v : Visit} {s : Symbol} (h : definedSymbol? file v = some s) :
    s.metadata = [("defined_with", .str "define")] := by
  rw [definedSymbol?] at h
  split at h
  · split at h
    · cases h
    · split at h
      · cases h
      · cases h
        rfl
  · cases h

theorem forall_mem_ite {P : Symbol → Prop} {c : Prop} [Decidable c] {ss ts : List Symbol} (yes : ∀ s ∈ ss, P s)
    (no : ∀ s ∈ ts, P s) : ∀ s ∈ if c then ss else ts, P s := by
  split
  · exact yes
  · exact no

theorem metadata_mem_marks {s : Symbol} {root : Node} (h : s ∈ symbols file root) : s.metadata ∈ marks := by
  obtain ⟨v, -, ignores, mem⟩ := mem_symbols h
  have none : ∀ {t : Symbol}, t.metadata = [] → t.metadata ∈ marks := fun eq => by rw [eq]; exact List.mem_cons_self
  have all : ∀ t ∈ symbolsAt file ignores v, t.metadata ∈ marks := by
    refine forall_mem_ite ?_ (forall_mem_ite ?_ (forall_mem_ite ?_ (forall_mem_ite ?_ (forall_mem_ite ?_
      (forall_mem_ite ?_ (forall_mem_ite ?_ (forall_mem_ite ?_ (forall_mem_ite ?_ ?_))))))))
    · exact List.forall_mem_singleton.2 (none rfl)
    · exact List.forall_mem_singleton.2 (none rfl)
    · exact List.forall_mem_nil _
    · exact List.forall_mem_singleton.2 (none rfl)
    · exact fun t mem => none (metadata_propertySymbols mem)
    · exact List.forall_mem_singleton.2 (by simp [promotedSymbol, marks])
    · exact fun t mem => none (metadata_constantSymbols mem)
    · exact fun t mem => by simp [metadata_enumCaseSymbol? (Option.mem_toList.1 mem), marks]
    · exact fun t mem => by simp [metadata_definedSymbol? (Option.mem_toList.1 mem), marks]
    · exact List.forall_mem_nil _
  exact all s mem

end Symbols

section References

variable {file : String} {v : Visit} {r : Reference}

theorem enclosing_classReference {scope : Scope} {kind : ReferenceKind} {name : Node}
    (h : r ∈ classReference file scope kind name) : r.enclosing = scope.currentClass := by
  rw [classReference] at h
  split at h
  · simp at h
  · rw [List.mem_singleton.1 h, referenceAt]

theorem enclosing_classReferences {kind : ReferenceKind} {names : List Node}
    (h : r ∈ names.flatMap (classReference file v.scope kind)) : r.enclosing = v.scope.currentClass := by
  obtain ⟨n, -, mem⟩ := List.mem_flatMap.1 h
  exact enclosing_classReference mem

theorem enclosing_newReferences (h : r ∈ newReferences file v) : r.enclosing = v.scope.currentClass := by
  rw [newReferences] at h
  grind [dynamic, referenceAt, enclosing_classReference]

theorem enclosing_memberReference {kind : ReferenceKind} {parent : Option String} {nameKind : String}
    (h : r ∈ memberReference file v kind parent nameKind) : r.enclosing = v.scope.currentClass := by
  rw [memberReference] at h
  grind [named, dynamic, referenceAt]

theorem enclosing_classConstantReferences (h : r ∈ classConstantReferences file v) :
    r.enclosing = v.scope.currentClass := by
  rw [classConstantReferences] at h
  grind [named, referenceAt]

theorem enclosing_functionCallReferences (h : r ∈ functionCallReferences file v) :
    r.enclosing = v.scope.currentClass := by
  rw [functionCallReferences] at h
  grind [named, dynamic, referenceAt]

theorem enclosing_instanceTestReferences (h : r ∈ instanceTestReferences file v) :
    r.enclosing = v.scope.currentClass := by
  rw [instanceTestReferences] at h
  grind [dynamic, referenceAt, enclosing_classReference]

theorem enclosing_constantReferences (h : r ∈ constantReferences file v) : r.enclosing = v.scope.currentClass := by
  rw [constantReferences] at h
  grind [named, referenceAt]

theorem enclosing_importReferences (h : r ∈ importReferences file v) : r.enclosing = v.scope.currentClass := by
  obtain ⟨u, -, rfl⟩ := List.mem_map.1 h
  rfl

/-- A reference tells the class of the scope that it stands in. -/
theorem enclosing_of_mem_referencesAt (h : r ∈ referencesAt file v) : r.enclosing = v.scope.currentClass := by
  have first (h : r ∈ (v.node.nameChildren.head?.map (classReference file v.scope .instantiation)).getD []) :
      r.enclosing = v.scope.currentClass := by
    cases found : v.node.nameChildren.head? with
    | none => simp [found] at h
    | some name => exact enclosing_classReference (by simpa [found] using h)
  rw [referencesAt] at h
  split at h
  all_goals grind [enclosing_importReferences, clauseReferences, enclosing_classReferences, enclosing_newReferences,
    enclosing_memberReference, enclosing_classConstantReferences, enclosing_functionCallReferences,
    enclosing_instanceTestReferences, catchReferences, enclosing_constantReferences]

theorem exists_visit_of_mem_references {root : Node} (h : r ∈ references file root) :
    ∃ v ∈ visits file root, r.enclosing = v.scope.currentClass := by
  obtain ⟨v, mem, here⟩ := List.mem_flatMap.1 h
  exact ⟨v, mem, enclosing_of_mem_referencesAt here⟩

/-- Where every class-like has a name, no reference stands in a class with an empty one. -/
theorem enclosing_ne_empty {root : Node} (named : ∀ s ∈ symbols file root, s.kind.isClassLike = true → s.name ≠ "")
    (h : r ∈ references file root) : r.enclosing ≠ some "" := by
  obtain ⟨v, mem, eq⟩ := exists_visit_of_mem_references h
  rw [eq]
  rcases currentClass_of_mem_visits mem with none | anonymous | ⟨w, found, like, eq⟩
  · rw [none]; nofun
  · rw [anonymous]; decide
  · have kind : (classSymbol file w).kind.isClassLike = true := by
      simp only [classSymbol, classKind]
      repeat' split
      all_goals rfl
    have name : w.node.childText "name" ≠ "" := named _ (classSymbol_mem_symbols found like) kind
    rw [eq, Visit.className, Name.qualify]
    split
    · exact fun empty => name (Option.some.inj empty)
    · intro empty
      have := congrArg String.length (Option.some.inj empty)
      simp [String.length_append] at this

end References

end DeadCode.Collect
