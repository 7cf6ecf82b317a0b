import DeadCode.Proofs.ClassIdentity
import DeadCode.Proofs.ClassUses
import DeadCode.Proofs.Sections
import Mathlib.Data.List.TakeWhile

/-!
# Members are ignored with their own class

A comment above a class can have all of it ignored. While a file is read, this is kept on record by the full name of the
class, and names are not unique: a later class of the same name overwrites the record of an earlier one. A member asks for the
name of the class in scope. It gets the answer of its own class as long as no class of that name is declared inside the class:
the walk passes all of a class before it meets what follows, so what is on record for the class in scope is what stands above
the innermost class around (`Settled`). Every member is then ignored as its own comments say or, where they say nothing, with
the class that it is written in (`members_ignored_as_declared`).
-/

namespace DeadCode.Collect
set_option autoImplicit false

/-- A comment right before a node has it ignored, by the rule or, where none is named, by all. Other comments may stand
between, and of several tags the nearest counts. -/
def Annotated (earlier : List Node) (rule : Option String) : Prop :=
  ∃ nearer c farther, earlier.filter (·.info.named) = nearer ++ c :: farther ∧
    (∀ d ∈ nearer, d.kind = "comment" ∧ findTag d.text.toList = none) ∧
    c.kind = "comment" ∧ findTag c.text.toList = some rule

/-- The innermost class-like declaration around a node. -/
def Visit.classAround? (v : Visit) : Option Place := v.around.find? (·.node.isClassLike)

/-- The first node is around the second one. -/
def Visit.Encloses (w v : Visit) : Prop := ⟨w.node, w.earlier⟩ :: w.around <:+ v.around

/-- No class is declared inside one of the same full name. -/
def ClassesApart (vs : List Visit) : Prop :=
  ∀ w ∈ vs, ∀ v ∈ vs, w.node.isClassLike = true → v.node.isClassLike = true → w.Encloses v → v.className ≠ w.className

/-- The declarations of a walk, each symbol with the node that declares it. -/
def declarations (file : String) (ignores : ClassIgnores) : List Visit → List (Visit × Symbol)
  | [] => []
  | v :: vs => (symbolsAt file ignores v).map (v, ·) ++ declarations file (ignoresAfter file ignores v) vs

/-- A member is ignored as its own comments say or, where they say nothing, by all rules exactly if the class that it is
written in is. -/
structure IgnoredAsDeclared (v : Visit) (s : Symbol) : Prop where
  own : ∀ rule, Annotated v.earlier rule → s.ignored = true ∧ s.ignoredRule = rule
  inherited : (∀ rule, ¬Annotated v.earlier rule) → s.ignoredRule = none ∧
    ∃ p, v.classAround? = some p ∧ (s.ignored = true ↔ Annotated p.earlier none)

section Tags

theorem annotated_iff {earlier : List Node} {rule : Option String} :
    Annotated earlier rule ↔ ignoreAbove earlier = ⟨true, rule⟩ := by
  have found := findSome?_takeWhile_eq_some_iff (p := fun n : Node => n.kind == "comment")
    (f := fun c : Node => findTag c.text.toList) (earlier.filter (·.info.named)) rule
  simp only [beq_iff_eq] at found
  rw [Annotated, ← found, ignoreAbove]
  split
  · next eq => simp [eq]
  · next eq => simp [eq]

theorem ignoreAbove_of_not_annotated {earlier : List Node} (none : ∀ rule, ¬Annotated earlier rule) :
    ignoreAbove earlier = {} := by
  simp only [annotated_iff] at none
  revert none
  rw [ignoreAbove]
  split
  · next rule _ => exact fun none => absurd rfl (none rule)
  · exact fun _ => rfl

end Tags

variable {file : String}

section Declarations

theorem declarations_append (ignores : ClassIgnores) (vs ws : List Visit) :
    declarations file ignores (vs ++ ws) =
      declarations file ignores vs ++ declarations file (vs.foldl (ignoresAfter file) ignores) ws := by
  induction vs generalizing ignores with
  | nil => rfl
  | cons v vs ih => rw [List.cons_append, declarations, ih, declarations, List.append_assoc, List.foldl_cons]

/-- The declarations are the symbols of the tree. -/
theorem map_snd_declarations (file : String) (root : Node) :
    (declarations file [] (visits file root)).map (·.2) = symbols file root := by
  have run (vs : List Visit) (d : Declared) : (vs.foldl (Declared.step file) d).symbols.reverse =
      d.symbols.reverse ++ (declarations file d.ignores vs).map (·.2) := by
    induction vs generalizing d with
    | nil => simp [declarations]
    | cons v vs ih =>
      rw [List.foldl_cons, ih, declarations]
      simp [Declared.step, Function.comp_def]
  rw [symbols, run]
  rfl

/-- Every member asks in the same way whether it is ignored. -/
theorem ignore_of_mem_symbolsAt {ignores : ClassIgnores} {v : Visit} {s : Symbol} (mem : s ∈ symbolsAt file ignores v)
    (member : s.kind.isMember = true) : (⟨s.ignored, s.ignoredRule⟩ : Ignore) = memberIgnore ignores v := by
  have other (kind : s.kind = .function ∨ s.kind = .globalConstant) :
      (⟨s.ignored, s.ignoredRule⟩ : Ignore) = memberIgnore ignores v := by
    rcases kind with kind | kind <;> rw [kind] at member <;> cases member
  simp only [symbolsAt] at mem
  split at mem
  · obtain rfl := List.mem_singleton.1 mem
    have like := isClassLike_classSymbol file v
    rw [SymbolKind.isClassLike_eq_false member] at like
    cases like
  split at mem
  · obtain rfl := List.mem_singleton.1 mem
    exact other (Or.inl rfl)
  split at mem
  · cases mem
  split at mem
  · obtain rfl := List.mem_singleton.1 mem
    rfl
  split at mem
  · obtain ⟨e, -, eq⟩ := List.mem_filterMap.1 mem
    obtain ⟨target, -, rfl⟩ := Option.map_eq_some_iff.1 eq
    rfl
  split at mem
  · obtain rfl := List.mem_singleton.1 mem
    rfl
  split at mem
  · obtain ⟨e, -, eq⟩ := List.mem_filterMap.1 mem
    obtain ⟨name, -, rfl⟩ := Option.map_eq_some_iff.1 eq
    by_cases inside : v.scope.currentClass.isSome = true
    · simp only [if_pos inside]
    · exact other (Or.inr (if_neg inside))
  split at mem
  · obtain ⟨name, -, rfl⟩ := Option.map_eq_some_iff.1 (Option.mem_toList.1 mem)
    rfl
  split at mem
  · have eq := Option.mem_toList.1 mem
    rw [definedSymbol?] at eq
    exact other (Or.inr (by grind))
  · cases mem

end Declarations

section Walk

/-- The record of the class in scope is what stands above the innermost class around, and none of the nodes declares a class
of that name once more. -/
def Settled (around : List Place) (scope : Scope) (ignores : ClassIgnores) (vs : List Visit) : Prop :=
  ∀ c, scope.currentClass = some c → c ≠ anonymousClass →
    (∃ p, around.find? (·.node.isClassLike) = some p ∧ Assoc.get? ignores c = some (ignoreAbove p.earlier)) ∧
    ∀ v ∈ vs, v.node.isClassLike = true → v.className ≠ c

variable {around : List Place} {scope scope' : Scope} {ignores : ClassIgnores} {vs ws : List Visit}

theorem Settled.mono (settled : Settled around scope ignores vs) (sub : ws ⊆ vs)
    (current : scope'.currentClass = scope.currentClass ∨ scope'.currentClass = none) :
    Settled around scope' ignores ws := by
  intro c inside named
  rcases current with same | none
  · obtain ⟨record, fresh⟩ := settled c (same ▸ inside) named
    exact ⟨record, fun v mem => fresh v (sub mem)⟩
  · rw [none] at inside
    cases inside

/-- A node leaves the record of every name alone but that of the class that it declares. -/
theorem get?_foldl_ignoresAfter {c : String} (fresh : ∀ v ∈ vs, v.node.isClassLike = true → v.className ≠ c) :
    Assoc.get? (vs.foldl (ignoresAfter file) ignores) c = Assoc.get? ignores c := by
  induction vs generalizing ignores with
  | nil => rfl
  | cons v vs ih =>
    rw [List.foldl_cons, ih fun w mem => fresh w (List.mem_cons_of_mem v mem), ignoresAfter]
    split
    · next like => exact Assoc.get?_set_of_ne _ _ (fresh v List.mem_cons_self like).symm
    · rfl

theorem Settled.run (settled : Settled around scope ignores (vs ++ ws)) :
    Settled around scope (vs.foldl (ignoresAfter file) ignores) ws := by
  intro c inside named
  obtain ⟨⟨p, found, record⟩, fresh⟩ := settled c inside named
  refine ⟨⟨p, found, ?_⟩, fun v mem => fresh v (List.mem_append_right vs mem)⟩
  rw [get?_foldl_ignoresAfter fun v mem => fresh v (List.mem_append_left ws mem), record]

/-- A member finds the record of its own class. -/
theorem Settled.ignoredAsDeclared {v : Visit} {s : Symbol} (settled : Settled v.around v.scope ignores vs)
    (mem : s ∈ symbolsAt file ignores v) (member : s.kind.isMember = true) : IgnoredAsDeclared v s := by
  have asked := ignore_of_mem_symbolsAt mem member
  cases declares_of_mem_symbolsAt mem with
  | classLike _ eq =>
    have like := isClassLike_classSymbol file v
    rw [← eq, SymbolKind.isClassLike_eq_false member] at like
    cases like
  | outside _ kind => rcases kind with kind | kind <;> rw [kind] at member <;> cases member
  | @member o _ _ _ inside named =>
    obtain ⟨⟨p, found, record⟩, -⟩ := settled o inside named
    refine ⟨fun rule own => ?_, fun none => ?_⟩
    · rw [memberIgnore, annotated_iff.1 own] at asked
      exact ⟨congrArg Ignore.ignored asked, congrArg Ignore.rule asked⟩
    · rw [memberIgnore, ignoreAbove_of_not_annotated none, inside] at asked
      simp only [Option.bind_some, record, Bool.false_eq_true, if_false] at asked
      have blanket : Annotated p.earlier Option.none ↔ ignoreAbove p.earlier = ⟨true, Option.none⟩ := annotated_iff
      split at asked
      · next above =>
        refine ⟨congrArg Ignore.rule asked, p, found, ?_⟩
        exact iff_of_true (congrArg Ignore.ignored asked) (blanket.2 (Option.some.inj above))
      · next other =>
        refine ⟨congrArg Ignore.rule asked, p, found, ?_⟩
        refine iff_of_false ?_ fun above => other (congrArg some (blanket.1 above))
        rw [show s.ignored = false from congrArg Ignore.ignored asked]
        exact Bool.false_ne_true

mutual

/-- Whatever is met on the walk from a node has the same places around as the node. -/
theorem suffix_of_mem_visitsOf (file : String) (around : List Place) (earlier : List Node) (scope : Scope) :
    (n : Node) → ∀ v ∈ visitsOf file around earlier scope n, around <:+ v.around
  | .mk i cs => by
    intro v mem
    rw [visitsOf] at mem
    rcases List.mem_cons.1 mem with rfl | mem
    · exact List.suffix_rfl
    · exact (List.suffix_cons _ around).trans (suffix_of_mem_visitsOfChildren file _ _ _ _ cs v mem)

theorem suffix_of_mem_visitsOfChildren (file : String) (around : List Place) (statements : Bool) (earlier : List Node)
    (scope : Scope) :
    (cs : List Node) → ∀ v ∈ visitsOfChildren file around statements earlier scope cs, around <:+ v.around
  | [] => by simp [visitsOfChildren]
  | c :: cs => by
    intro v mem
    rw [visitsOfChildren_cons] at mem
    rcases List.mem_append.1 mem with mem | mem
    · exact suffix_of_mem_visitsOf file around earlier _ c v mem
    · exact suffix_of_mem_visitsOfChildren file around statements (c :: earlier) _ cs v mem

end

/-- Below a class the class is that one. Below any other node it is the one around, one without a name, or none. -/
theorem currentClass_below (v : Visit) :
    (v.node.isClassLike = true ∧ (scopeBelow v.node v.scope).currentClass = some v.className) ∨
    (v.node.isClassLike = false ∧ ((scopeBelow v.node v.scope).currentClass = v.scope.currentClass ∨
      (scopeBelow v.node v.scope).currentClass = some anonymousClass ∨
      (scopeBelow v.node v.scope).currentClass = none)) := by
  rw [scopeBelow]
  split
  · next space =>
    have plain : v.node.isClassLike = false := by
      have kind : v.node.kind = "namespace_definition" := eq_of_beq (Bool.and_eq_true_iff.1 space).1
      simp [Node.isClassLike, kind]
    exact Or.inr ⟨plain, Or.inr (Or.inr rfl)⟩
  split
  · next like => exact Or.inl ⟨like, rfl⟩
  next plain =>
  rw [Bool.not_eq_true] at plain
  split
  · exact Or.inr ⟨plain, Or.inr (Or.inl rfl)⟩
  split
  · exact Or.inr ⟨plain, Or.inl rfl⟩
  · exact Or.inr ⟨plain, Or.inl rfl⟩

/-- One step down: a class puts itself on record, and any other node leaves the record as it is. -/
theorem Settled.below {v : Visit} (settled : Settled v.around v.scope ignores (v :: vs)) (apart : ClassesApart (v :: vs))
    (inside : ∀ w ∈ vs, v.Encloses w) :
    Settled (⟨v.node, v.earlier⟩ :: v.around) (scopeBelow v.node v.scope) (ignoresAfter file ignores v) vs := by
  intro c current named
  rcases currentClass_below v with ⟨like, own⟩ | ⟨plain, other⟩
  · obtain rfl : v.className = c := Option.some.inj (own.symm.trans current)
    refine ⟨⟨⟨v.node, v.earlier⟩, List.find?_cons_of_pos like, ?_⟩, fun w mem likeToo => ?_⟩
    · rw [ignoresAfter, if_pos like]
      exact Assoc.get?_set_self ignores v.className _
    · exact apart v List.mem_cons_self w (List.mem_cons_of_mem v mem) like likeToo (inside w mem)
  · have same : v.scope.currentClass = some c := by
      rcases other with same | anonymous | none
      · exact same.symm.trans current
      · exact absurd (Option.some.inj (current.symm.trans anonymous)) named
      · exact nomatch current.symm.trans none
    obtain ⟨⟨p, found, record⟩, fresh⟩ := settled c same named
    refine ⟨⟨p, ?_, ?_⟩, fun w mem => fresh w (List.mem_cons_of_mem v mem)⟩
    · rw [List.find?_cons_of_neg (by simp [plain]), found]
    · rw [ignoresAfter, if_neg (by simp [plain]), record]

theorem ClassesApart.mono (apart : ClassesApart vs) (sub : ws ⊆ vs) : ClassesApart ws :=
  fun w mem v mem' => apart w (sub mem) v (sub mem')

theorem currentClass_scopeAt (statements : Bool) (s : Scope) (c : Node) :
    (scopeAt statements s c).currentClass = s.currentClass ∨ (scopeAt statements s c).currentClass = none := by
  cases statements with
  | true => exact currentClass_scopeFrom s c
  | false => exact Or.inl rfl

theorem currentClass_scopePast (statements : Bool) (s : Scope) (c : Node) :
    (scopePast file statements s c).currentClass = s.currentClass ∨ (scopePast file statements s c).currentClass = none := by
  cases statements with
  | true =>
    have after := currentClass_scopeAfter file (scopeFrom s c) c
    exact (currentClass_scopeFrom s c).imp after.trans after.trans
  | false => exact Or.inl rfl

mutual

/-- The walk from a node: the record of the class in scope is settled when the node is reached, and so it is for everything
below. -/
theorem ignoredAsDeclared_visitsOf (around : List Place) (earlier : List Node) (scope : Scope) (ignores : ClassIgnores) :
    (n : Node) → ClassesApart (visitsOf file around earlier scope n) →
      Settled around scope ignores (visitsOf file around earlier scope n) →
      ∀ d ∈ declarations file ignores (visitsOf file around earlier scope n), d.2.kind.isMember = true →
        IgnoredAsDeclared d.1 d.2
  | .mk i cs => by
    intro apart settled d mem member
    rw [visitsOf] at apart settled mem
    rw [declarations] at mem
    rcases List.mem_append.1 mem with here | mem
    · obtain ⟨s, declared, rfl⟩ := List.mem_map.1 here
      exact settled.ignoredAsDeclared (v := ⟨.mk i cs, earlier, scope, around⟩) declared member
    · have inside := suffix_of_mem_visitsOfChildren file (⟨.mk i cs, earlier⟩ :: around)
        (isStatementList (.mk i cs) (around.head?.map (·.node))) [] (scopeBelow (.mk i cs) scope) cs
      have below : Settled (⟨.mk i cs, earlier⟩ :: around) (scopeBelow (.mk i cs) scope)
          (ignoresAfter file ignores ⟨.mk i cs, earlier, scope, around⟩) _ := settled.below apart inside
      exact ignoredAsDeclared_visitsOfChildren _ _ _ _ _ cs (apart.mono (List.subset_cons_self _ _)) below d mem member

/-- The children that are left: those before may have put classes on record, but not that of the scope. -/
theorem ignoredAsDeclared_visitsOfChildren (around : List Place) (statements : Bool) (earlier : List Node) (scope : Scope)
    (ignores : ClassIgnores) :
    (cs : List Node) → ClassesApart (visitsOfChildren file around statements earlier scope cs) →
      Settled around scope ignores (visitsOfChildren file around statements earlier scope cs) →
      ∀ d ∈ declarations file ignores (visitsOfChildren file around statements earlier scope cs), d.2.kind.isMember = true →
        IgnoredAsDeclared d.1 d.2
  | [] => by simp [visitsOfChildren, declarations]
  | c :: cs => by
    intro apart settled d mem member
    rw [visitsOfChildren_cons] at apart settled mem
    rw [declarations_append] at mem
    rcases List.mem_append.1 mem with mem | mem
    · exact ignoredAsDeclared_visitsOf _ _ _ _ c (apart.mono (List.subset_append_left _ _))
        (settled.mono (List.subset_append_left _ _) (currentClass_scopeAt statements scope c)) d mem member
    · exact ignoredAsDeclared_visitsOfChildren _ _ _ _ _ cs (apart.mono (List.subset_append_right _ _))
        (settled.run.mono (List.Subset.refl _) (currentClass_scopePast statements scope c)) d mem member

end

end Walk

/-- **Members are ignored with their own class.** Take any tree in which no class is declared inside one of the same full
name. Of the symbols that are collected from it, each together with the node that declares it, every member is ignored by its
own comment if it has one, and by the rule that this names. If it has none, a class stands around it, and it is ignored, by
all rules, exactly if a comment has the innermost one ignored by all rules. It does not matter how many classes of the file
share their name. -/
theorem members_ignored_as_declared (file : String) {root : Node} (apart : ClassesApart (visits file root)) :
    (declarations file [] (visits file root)).map (·.2) = symbols file root ∧
    ∀ d ∈ declarations file [] (visits file root), d.2.kind.isMember = true → IgnoredAsDeclared d.1 d.2 := by
  refine ⟨map_snd_declarations file root, ?_⟩
  have start : Settled [] {} [] (visits file root) := fun c inside => nomatch inside
  exact ignoredAsDeclared_visitsOf [] [] {} [] root apart start

section Samples

open Context (sampleNode sampleField)

def namedMethod (name : String) (body : List Node) : Node :=
  sampleNode "method_declaration" "" [sampleField "name" "name" name [], sampleField "body" "compound_statement" "" body]

def namedClass (name : String) (members : List Node) : Node :=
  sampleNode "class_declaration" ""
    [sampleField "name" "name" name [], sampleField "body" "declaration_list" "" members]

def ignoreComment (rule : String) : Node := sampleNode "comment" ("// @phpjanitor-ignore" ++ rule) []

/-- A class that is ignored, with a method that is ignored by one rule. -/
def ignoredValve : Node :=
  namedClass "Valve" [namedMethod "open" [], ignoreComment " unused-methods", namedMethod "shut" []]

/-- A class of the same name that is not ignored, with another class inside it that is ignored by one rule. -/
def plainValve : Node :=
  namedClass "Valve" [
    sampleNode "const_declaration" "" [sampleNode "const_element" "" [sampleNode "name" "MAX" []]],
    namedMethod "turn" [ignoreComment " unused-classes", namedClass "Handle" [namedMethod "grip" []]]]

def valveFile : Node := sampleNode "program" "" [ignoreComment "", ignoredValve, plainValve]

theorem members_ignored_as_declared_valve :
    ClassesApart (visits "a.php" valveFile) ∧
    (declarations "a.php" [] (visits "a.php" valveFile)).map (fun d => (d.2.fqn, d.2.ignored, d.2.ignoredRule)) = [
      ("Valve", true, none), ("Valve::open", true, none), ("Valve::shut", true, some "unused-methods"),
      ("Valve", false, none), ("Valve::MAX", false, none), ("Valve::turn", false, none),
      ("Handle", true, some "unused-classes"), ("Handle::grip", false, none)] ∧
    ∀ d ∈ declarations "a.php" [] (visits "a.php" valveFile), d.2.kind.isMember = true → IgnoredAsDeclared d.1 d.2 := by
  have deeper : ∀ w ∈ visits "a.php" valveFile, ∀ v ∈ visits "a.php" valveFile, w.node.isClassLike = true →
      v.node.isClassLike = true → w.around.length < v.around.length → v.className ≠ w.className := by decide +kernel
  have apart : ClassesApart (visits "a.php" valveFile) := by
    intro w mem v mem' like like' inside
    have longer := inside.length_le
    rw [List.length_cons] at longer
    exact deeper w mem v mem' like like' (by omega)
  exact ⟨apart, by decide +kernel, (members_ignored_as_declared "a.php" apart).2⟩

end Samples

end DeadCode.Collect
