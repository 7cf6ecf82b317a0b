import DeadCode.Proofs.ClassScopes
import DeadCode.Proofs.Verdicts
import DeadCode.Syntax.Verdict

/-!
# Classes and what belongs to them

The symbols of a file and its references name classes in two ways that never meet in the code: a class-like node is
declared under a full name, and what stands below it is given the name of the class in scope. They agree. The class-like
symbols are the class-like nodes in document order, every member comes after a symbol of its own class, and every
reference inside a class with a name tells that of one of these symbols (`collected_classes`).
-/

namespace DeadCode
set_option autoImplicit false

theorem SymbolKind.isClassLike_eq_false {kind : SymbolKind} (member : kind.isMember = true) : kind.isClassLike = false := by
  revert member
  cases kind <;> decide

namespace Collect

/-- What a node can declare: a class, something outside classes, or a member of the class in scope, which has a name. -/
inductive Declares (file : String) (v : Visit) (s : Symbol) : Prop
  | classLike (like : v.node.isClassLike = true) (eq : s = classSymbol file v)
  | outside (plain : v.node.isClassLike = false) (kind : s.kind = .function ∨ s.kind = .globalConstant)
      (free : s.owner = none)
  | member {o : String} (plain : v.node.isClassLike = false) (kind : s.kind.isMember = true) (owned : s.owner = some o)
      (inside : v.scope.currentClass = some o) (named : o ≠ anonymousClass)

/-- Every member comes after a class-like symbol whose full name is that of its owner. -/
def OwnersFirst (ss : List Symbol) : Prop :=
  ∀ before s after, ss = before ++ s :: after → ∀ o, s.owner = some o →
    ∃ k ∈ before, k.kind.isClassLike = true ∧ k.fqn = o

section Declarations

variable {file : String} {ignores : ClassIgnores} {v : Visit} {s : Symbol}

theorem fqn_classSymbol (file : String) (v : Visit) : (classSymbol file v).fqn = v.className := rfl

theorem isClassLike_classSymbol (file : String) (v : Visit) : (classSymbol file v).kind.isClassLike = true := by
  show (classKind v.node).isClassLike = true
  unfold classKind
  repeat' split
  all_goals rfl

theorem declares_constantSymbols (plain : v.node.isClassLike = false) (named : v.scope.currentClass ≠ some anonymousClass)
    (h : s ∈ constantSymbols file ignores v) : Declares file v s := by
  obtain ⟨e, -, eq⟩ := List.mem_filterMap.1 h
  obtain ⟨name, -, rfl⟩ := Option.map_eq_some_iff.1 eq
  cases inside : v.scope.currentClass with
  | none => exact .outside plain (Or.inr rfl) rfl
  | some o => exact .member plain rfl rfl inside fun eq => named (by rw [inside, eq])

theorem declares_member (plain : v.node.isClassLike = false) (named : v.scope.currentClass ≠ some anonymousClass)
    (inClass : (Scope.present v.scope.currentClass).isSome = true) (kind : s.kind.isMember = true)
    (owner : s.owner = v.scope.currentClass) : Declares file v s := by
  cases inside : v.scope.currentClass with
  | none => simp [inside, Scope.present] at inClass
  | some o => exact .member plain kind (owner.trans inside) inside fun eq => named (by rw [inside, eq])

theorem declares_of_mem_symbolsAt (h : s ∈ symbolsAt file ignores v) : Declares file v s := by
  simp only [symbolsAt] at h
  split at h
  · next like => exact .classLike like (List.mem_singleton.1 h)
  next plain =>
  rw [Bool.not_eq_true] at plain
  split at h
  · obtain rfl := List.mem_singleton.1 h
    exact .outside plain (Or.inl rfl) rfl
  split at h
  · cases h
  next named =>
  replace named : v.scope.currentClass ≠ some anonymousClass := by simpa using named
  split at h
  · next at_ =>
    obtain rfl := List.mem_singleton.1 h
    exact declares_member plain named (Bool.and_eq_true_iff.1 at_).2 rfl rfl
  split at h
  · next at_ =>
    obtain ⟨e, -, eq⟩ := List.mem_filterMap.1 h
    obtain ⟨target, -, rfl⟩ := Option.map_eq_some_iff.1 eq
    exact declares_member plain named (Bool.and_eq_true_iff.1 at_).2 rfl rfl
  split at h
  · next at_ =>
    obtain rfl := List.mem_singleton.1 h
    exact declares_member plain named (Bool.and_eq_true_iff.1 at_).2 rfl rfl
  split at h
  · exact declares_constantSymbols plain named h
  split at h
  · next at_ =>
    obtain ⟨name, -, rfl⟩ := Option.map_eq_some_iff.1 (Option.mem_toList.1 h)
    exact declares_member plain named (Bool.and_eq_true_iff.1 at_).2 rfl rfl
  split at h
  · have eq := Option.mem_toList.1 h
    rw [definedSymbol?] at eq
    grind [Declares.outside]
  · cases h

end Declarations

section Run

variable {file : String}

theorem OwnersFirst.append {ss ts : List Symbol} (first : OwnersFirst ss)
    (new : ∀ s ∈ ts, ∀ o, s.owner = some o → ∃ k ∈ ss, k.kind.isClassLike = true ∧ k.fqn = o) : OwnersFirst (ss ++ ts) := by
  intro before s after eq o owned
  rcases List.append_eq_append_iff.1 eq with ⟨more, rfl, rest⟩ | ⟨more, rfl, rest⟩
  · obtain ⟨k, mem, found⟩ := new s (by simp [rest]) o owned
    exact ⟨k, List.mem_append_left _ mem, found⟩
  · cases more with
    | nil =>
      rw [List.append_nil] at new
      rw [List.nil_append] at rest
      exact new s (by simp [← rest]) o owned
    | cons t more =>
      obtain ⟨rfl, rfl⟩ := List.cons.inj rest
      exact first before s more rfl o owned

/-- What is declared after the nodes seen: one symbol for each class-like node, in their order, and owners before members. -/
structure Accounted (file : String) (seen : List Visit) (ss : List Symbol) : Prop where
  classes : ss.filter (·.kind.isClassLike) = (seen.reverse.filter (·.node.isClassLike)).map (classSymbol file)
  owners : OwnersFirst ss

theorem filter_symbolsAt (file : String) (ignores : ClassIgnores) (v : Visit) :
    (symbolsAt file ignores v).filter (·.kind.isClassLike) = ([v].filter (·.node.isClassLike)).map (classSymbol file) := by
  cases like : v.node.isClassLike with
  | true => simp [symbolsAt, like, isClassLike_classSymbol]
  | false =>
    rw [List.filter_singleton, like, cond_false, List.map_nil, List.filter_eq_nil_iff]
    intro s mem kind
    cases declares_of_mem_symbolsAt mem with
    | classLike yes => rw [like] at yes; cases yes
    | outside _ other => rcases other with eq | eq <;> rw [eq] at kind <;> cases kind
    | member _ other => rw [SymbolKind.isClassLike_eq_false other] at kind; cases kind

/-- One more node. -/
theorem Accounted.step {seen : List Visit} {d : Declared} {v : Visit} (h : Accounted file seen d.symbols.reverse)
    (met : ClassAmong seen v.scope.currentClass) : Accounted file (v :: seen) (d.step file v).symbols.reverse := by
  have grows : (d.step file v).symbols.reverse = d.symbols.reverse ++ symbolsAt file d.ignores v := by
    simp [Declared.step]
  rw [grows]
  refine ⟨?_, h.owners.append fun s mem o owned => ?_⟩
  · rw [List.filter_append, h.classes, filter_symbolsAt, List.reverse_cons, List.filter_append, List.map_append]
  · cases declares_of_mem_symbolsAt mem with
    | classLike _ eq => rw [eq] at owned; cases owned
    | outside _ _ free => rw [free] at owned; cases owned
    | @member o' _ _ owned' inside named =>
      obtain rfl := Option.some.inj (owned.symm.trans owned')
      rw [inside] at met
      rcases met with none | anonymous | ⟨w, before, like, eq⟩
      · cases none
      · exact absurd (Option.some.inj anonymous) named
      · have declared : classSymbol file w ∈ d.symbols.reverse.filter (·.kind.isClassLike) := by
          rw [h.classes]
          exact List.mem_map_of_mem (List.mem_filter.2 ⟨List.mem_reverse.2 before, like⟩)
        exact ⟨_, (List.mem_filter.1 declared).1, isClassLike_classSymbol file w, (Option.some.inj eq).symm⟩

theorem Accounted.run {seen vs : List Visit} {d : Declared} (h : Accounted file seen d.symbols.reverse)
    (met : ClassesMet seen vs) :
    Accounted file (vs.reverse ++ seen) (vs.foldl (Declared.step file) d).symbols.reverse := by
  induction vs generalizing seen d with
  | nil => exact h
  | cons v vs ih =>
    rw [List.reverse_cons, List.append_assoc]
    exact ih (h.step met.1) met.2

theorem accounted_symbols (file : String) (root : Node) :
    Accounted file (visits file root).reverse (symbols file root) := by
  have start : Accounted file [] ({} : Declared).symbols.reverse := ⟨rfl, by simp [OwnersFirst]⟩
  have done := start.run (classesMet_visits file root)
  rwa [List.append_nil] at done

/-- Every member belongs to a class that is declared. -/
theorem exists_owner_of_mem_symbols {root : Node} {s : Symbol} (mem : s ∈ symbols file root)
    (member : s.kind.isMember = true) :
    ∃ o, s.owner = some o ∧ ∃ k ∈ symbols file root, k.kind.isClassLike = true ∧ k.fqn = o := by
  obtain ⟨v, -, ignores, here⟩ := mem_symbols mem
  cases declares_of_mem_symbolsAt here with
  | classLike _ eq =>
    have like := isClassLike_classSymbol file v
    rw [← eq, SymbolKind.isClassLike_eq_false member] at like
    cases like
  | outside _ kind =>
    rcases kind with eq | eq
    · rw [eq] at member; cases member
    · rw [eq] at member; cases member
  | @member o _ _ owned =>
    obtain ⟨before, after, eq⟩ := List.append_of_mem mem
    obtain ⟨k, first, found⟩ := (accounted_symbols file root).owners before s after eq o owned
    exact ⟨o, owned, k, by simp [eq, first], found⟩

mutual

theorem map_node_visitsOf (around : List Place) (earlier : List Node) (scope : Scope) :
    (n : Node) → (visitsOf file around earlier scope n).map (·.node) = n.preorder
  | .mk i cs => by
    rw [visitsOf, Node.preorder, List.map_cons, map_node_visitsOfChildren]

theorem map_node_visitsOfChildren (around : List Place) (statements : Bool) (earlier : List Node) (scope : Scope) :
    (cs : List Node) →
      (visitsOfChildren file around statements earlier scope cs).map (·.node) = Node.preorderAll cs
  | [] => rfl
  | c :: cs => by
    rw [visitsOfChildren, Node.preorderAll]
    split
    all_goals rw [List.map_append, map_node_visitsOf, map_node_visitsOfChildren]

end

/-- The walk lists the nodes in document order. -/
theorem map_node_visits (file : String) (root : Node) : (visits file root).map (·.node) = root.preorder :=
  map_node_visitsOf [] [] {} root

end Run

/-- **Classes are named alike everywhere.** In what is collected from a tree, every member comes after a class-like symbol
with the full name of its owner; the class-like symbols are those of the class-like nodes, one for each in document order;
no member belongs to a class without a name; and the class that a reference tells is none, one without a name, or one of
the class-like symbols. -/
theorem collected_classes (file : String) (root : Node) :
    OwnersFirst (symbols file root) ∧
    ((visits file root).map (·.node) = root.preorder ∧ (symbols file root).filter (·.kind.isClassLike) =
      ((visits file root).filter (·.node.isClassLike)).map (classSymbol file)) ∧
    (∀ s ∈ symbols file root, s.owner ≠ some anonymousClass) ∧
    ∀ r ∈ references file root, r.enclosing = none ∨ r.enclosing = some anonymousClass ∨
      ∃ k ∈ symbols file root, k.kind.isClassLike = true ∧ r.enclosing = some k.fqn := by
  have accounted := accounted_symbols file root
  refine ⟨accounted.owners, ⟨map_node_visits file root, by simpa using accounted.classes⟩, ?_, ?_⟩
  · intro s mem anonymous
    obtain ⟨v, -, ignores, here⟩ := mem_symbols mem
    cases declares_of_mem_symbolsAt here with
    | classLike _ eq => rw [eq] at anonymous; cases anonymous
    | outside _ _ free => rw [free] at anonymous; cases anonymous
    | member _ _ owned _ named => exact named (Option.some.inj (owned.symm.trans anonymous))
  · intro r mem
    obtain ⟨v, visited, eq⟩ := exists_visit_of_mem_references mem
    rw [eq]
    rcases currentClass_of_mem_visits visited with none | anonymous | ⟨w, found, like, inside⟩
    · exact Or.inl none
    · exact Or.inr (Or.inl anonymous)
    · exact Or.inr (Or.inr ⟨_, classSymbol_mem_symbols found like, isClassLike_classSymbol file w, inside⟩)

end Collect

end DeadCode
