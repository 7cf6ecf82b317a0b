import DeadCode.Collect.References
import Mathlib.Data.List.Basic

/-!
# Sections of a file

The imports of a file hold in its sections: from a namespace statement to the next one, or in the body of a namespace. The
walk reaches every node that stands in a statement of a section (`Inside`), and the class aliases that are in force there
are those of the imports in the statements before it (`exists_visit_of_inSection`).
-/

namespace DeadCode.Collect
set_option autoImplicit false

/-- A node of a tree, with the node around it. -/
inductive Below (root : Node) : Option Node → Node → Prop
  | root : Below root none root
  | child {parent : Option Node} {n c : Node} (below : Below root parent n) (child : c ∈ n.children) : Below root (some n) c

/-- Does a section start with the statement? -/
def startsSection (n : Node) : Bool := n.kind == "namespace_definition" && (n.child? "body").isNone

/-- The statements before one in its section, as far back as one likes. -/
structure InSection (root : Node) (earlier : List Node) (statement : Node) : Prop where
  list : ∃ parent n before after, Below root parent n ∧ isStatementList n parent = true ∧
    n.children = before ++ earlier ++ statement :: after
  same : ∀ n ∈ (earlier ++ [statement]).tail, startsSection n = false

/-- The imports of statements. -/
def importsIn (file : String) (statements : List Node) : List Import :=
  statements.flatMap fun n => if n.kind == "namespace_use_declaration" then importsOf n file else []

/-- A node of a statement that is in the same section: no namespace and no file of its own lies between. -/
inductive Inside (statement : Node) : Node → Prop
  | here : Inside statement statement
  | child {n c : Node} (inside : Inside statement n) (plain : n.kind ≠ "namespace_definition" ∧ n.kind ≠ "program")
      (child : c ∈ n.children) : Inside statement c

section Walk

variable (file : String) {around : List Place} {earlier : List Node} {scope : Scope} {root : Node}

theorem visitsOf_eq (n : Node) :
    visitsOf file around earlier scope n = ⟨n, earlier, scope, around⟩ ::
      visitsOfChildren file (⟨n, earlier⟩ :: around) (isStatementList n (around.head?.map (·.node))) []
        (scopeBelow n scope) n.children := by
  cases n with
  | mk i cs =>
    rw [visitsOf]
    rfl

theorem visitsOfChildren_cons (around : List Place) (statements : Bool) (earlier : List Node) (scope : Scope) (c : Node)
    (cs : List Node) :
    visitsOfChildren file around statements earlier scope (c :: cs) =
      visitsOf file around earlier (scopeAt statements scope c) c ++
        visitsOfChildren file around statements (c :: earlier) (scopePast file statements scope c) cs := by
  rw [visitsOfChildren]
  cases statements with
  | true => rfl
  | false => rfl

/-- The walk passes every child. In a node that is no list of statements, all of them have the same scope. -/
theorem exists_visitsOf_child (around : List Place) (statements : Bool) (earlier : List Node) (scope : Scope) {c : Node}
    {cs : List Node} (mem : c ∈ cs) :
    ∃ before scope', visitsOf file around before scope' c ⊆ visitsOfChildren file around statements earlier scope cs ∧
      (statements = false → scope' = scope) := by
  induction cs generalizing earlier scope with
  | nil => cases mem
  | cons d cs ih =>
    rw [visitsOfChildren]
    rcases List.mem_cons.1 mem with rfl | later
    · cases statements with
      | true => exact ⟨earlier, scopeFrom scope c, List.subset_append_left _ _, fun eq => by cases eq⟩
      | false => exact ⟨earlier, scope, List.subset_append_left _ _, fun _ => rfl⟩
    · cases statements with
      | true =>
        obtain ⟨before, scope', sub, -⟩ := ih (d :: earlier) (scopeAfter file (scopeFrom scope d) d) later
        exact ⟨before, scope', List.subset_append_of_subset_right _ sub, fun eq => by cases eq⟩
      | false =>
        obtain ⟨before, scope', sub, same⟩ := ih (d :: earlier) scope later
        exact ⟨before, scope', List.subset_append_of_subset_right _ sub, same⟩

/-- The walk passes every node of the tree. -/
theorem exists_visitsOf_below {parent : Option Node} {n : Node} (below : Below root parent n) :
    ∃ around earlier scope, visitsOf file around earlier scope n ⊆ visits file root ∧
      around.head?.map (·.node) = parent := by
  induction below with
  | root => exact ⟨[], [], {}, List.Subset.refl _, rfl⟩
  | @child parent n c _ mem ih =>
    obtain ⟨around, earlier, scope, sub, -⟩ := ih
    rw [visitsOf_eq] at sub
    obtain ⟨before, scope', inner, -⟩ := exists_visitsOf_child file (⟨n, earlier⟩ :: around) _ [] _ mem
    exact ⟨_, before, scope', List.Subset.trans inner (List.subset_of_cons_subset sub), rfl⟩

/-- The scope after statements. -/
def scopeThrough (s : Scope) (statements : List Node) : Scope :=
  statements.foldl (fun s n => scopeAfter file (scopeFrom s n) n) s

/-- The walk passes a statement with the scope that those before it leave. -/
theorem exists_visitsOf_statement (around : List Place) (earlier : List Node) (scope : Scope) (before : List Node) (n : Node)
    (after : List Node) :
    ∃ siblings, visitsOf file around siblings (scopeFrom (scopeThrough file scope before) n) n ⊆
      visitsOfChildren file around true earlier scope (before ++ n :: after) := by
  induction before generalizing earlier scope with
  | nil =>
    rw [List.nil_append, visitsOfChildren, if_pos rfl]
    exact ⟨earlier, List.subset_append_left _ _⟩
  | cons m before ih =>
    obtain ⟨siblings, sub⟩ := ih (m :: earlier) (scopeAfter file (scopeFrom scope m) m)
    rw [List.cons_append, visitsOfChildren, if_pos rfl]
    exact ⟨siblings, List.subset_append_of_subset_right _ sub⟩

theorem scopeFrom_of_not_starts {n : Node} (plain : startsSection n = false) (s : Scope) : scopeFrom s n = s := by
  rw [scopeFrom, ← startsSection, plain]
  rfl

theorem scopeAfter_eq (s : Scope) (n : Node) : scopeAfter file s n = s.withImports (importsIn file [n]) := by
  rw [scopeAfter, importsIn, List.flatMap_singleton]
  split
  · rfl
  · rfl

theorem importsIn_cons (n : Node) (ns : List Node) : importsIn file (n :: ns) = importsIn file [n] ++ importsIn file ns := by
  simp [importsIn]

theorem withImports_append (s : Scope) (us vs : List Import) :
    s.withImports (us ++ vs) = (s.withImports us).withImports vs := List.foldl_append

/-- Statements that start no section bring their imports into force. -/
theorem scopeThrough_of_not_starts {statements : List Node} (plain : ∀ n ∈ statements, startsSection n = false) (s : Scope) :
    scopeThrough file s statements = s.withImports (importsIn file statements) := by
  induction statements generalizing s with
  | nil => rfl
  | cons n ns ih =>
    have first := scopeFrom_of_not_starts (plain n List.mem_cons_self) s
    rw [importsIn_cons, withImports_append, ← scopeAfter_eq, ← ih fun m mem => plain m (List.mem_cons_of_mem _ mem)]
    rw [scopeThrough, List.foldl_cons, first]
    rfl

/-- From the first statement of a section on, which may start it, the imports come into force one after the other. -/
theorem scopeFrom_scopeThrough {since rest : List Node} {first statement : Node}
    (from_ : since ++ [statement] = first :: rest) (same : ∀ n ∈ rest, startsSection n = false) (s : Scope) :
    scopeFrom (scopeThrough file s since) statement = (scopeFrom s first).withImports (importsIn file since) := by
  cases since with
  | nil =>
    obtain ⟨rfl, -⟩ := List.cons.inj from_
    rfl
  | cons m since =>
    obtain ⟨rfl, rfl⟩ := List.cons.inj from_
    have last : startsSection statement = false := same statement (List.mem_append_right _ List.mem_cons_self)
    have plain : ∀ n ∈ since, startsSection n = false := fun n mem => same n (List.mem_append_left _ mem)
    have step : scopeThrough file s (m :: since) = scopeThrough file (scopeAfter file (scopeFrom s m) m) since := rfl
    rw [scopeFrom_of_not_starts last, step, scopeThrough_of_not_starts file plain, scopeAfter_eq,
      importsIn_cons file m since, withImports_append]

/-- Where a statement of a section starts, the imports before it have come into force, one after the other. -/
theorem exists_scope_of_same {earlier : List Node} {statement : Node}
    (same : ∀ n ∈ (earlier ++ [statement]).tail, startsSection n = false) (s : Scope) :
    ∃ s' : Scope, scopeFrom (scopeThrough file s earlier) statement = s'.withImports (importsIn file earlier) := by
  obtain ⟨first, rest, eq⟩ := List.exists_cons_of_ne_nil (List.concat_ne_nil statement earlier)
  rw [eq, List.tail_cons] at same
  exact ⟨scopeFrom s first, scopeFrom_scopeThrough file eq same s⟩

/-- A node that is no namespace leaves the class aliases as they are. -/
theorem classAliases_scopeBelow {n : Node} (plain : n.kind ≠ "namespace_definition") (s : Scope) :
    (scopeBelow n s).classAliases = s.classAliases := by
  rw [scopeBelow, if_neg (by simp [plain])]
  split
  · rfl
  · split
    · rfl
    · split
      · rfl
      · rfl

/-- Down a statement the class aliases stay in force. -/
theorem exists_visitsOf_inside {statement n : Node} (inside : Inside statement n) (around : List Place) (earlier : List Node)
    (scope : Scope) (plain : ∀ p, around.head? = some p → p.node.kind ≠ "namespace_definition") :
    ∃ around' earlier' scope',
      visitsOf file around' earlier' scope' n ⊆ visitsOf file around earlier scope statement ∧
      scope'.classAliases = scope.classAliases ∧
      ∀ p, around'.head? = some p → p.node.kind ≠ "namespace_definition" := by
  induction inside with
  | here => exact ⟨around, earlier, scope, List.Subset.refl _, rfl, plain⟩
  | @child n c _ same mem ih =>
    obtain ⟨around', earlier', scope', sub, aliases, above⟩ := ih
    have single : isStatementList n (around'.head?.map (·.node)) = false := by
      simpa [isStatementList, same.2] using fun _ => above
    rw [visitsOf_eq] at sub
    obtain ⟨before, scope'', inner, below⟩ := exists_visitsOf_child file (⟨n, earlier'⟩ :: around')
      (isStatementList n (around'.head?.map (·.node))) [] (scopeBelow n scope') mem
    refine ⟨_, before, scope'', List.Subset.trans inner (List.subset_of_cons_subset sub), ?_, ?_⟩
    · rw [below single, classAliases_scopeBelow same.1, aliases]
    · intro p eq
      obtain rfl := Option.some.inj eq
      exact same.1

/-- **The aliases in a section.** The walk comes to every node inside a statement of a section, and the class aliases there
are those of the imports before the statement. -/
theorem exists_visit_of_inSection {earlier : List Node} {statement n : Node} (within : InSection root earlier statement)
    (inside : Inside statement n) :
    ∃ (s : Scope) (v : Visit), v ∈ visits file root ∧ v.node = n ∧
      v.scope.classAliases = (s.withImports (importsIn file earlier)).classAliases := by
  obtain ⟨⟨parent, l, before, after, below, list, children⟩, same⟩ := within
  obtain ⟨around, siblings, scope, sub, above⟩ := exists_visitsOf_below file below
  rw [visitsOf_eq, above, list, children] at sub
  obtain ⟨siblings', first⟩ := exists_visitsOf_statement file (⟨l, siblings⟩ :: around) [] (scopeBelow l scope)
    (before ++ earlier) statement after
  have plain : ∀ p, (⟨l, siblings⟩ :: around : List Place).head? = some p → p.node.kind ≠ "namespace_definition" := by
    intro p eq kind
    obtain rfl := Option.some.inj eq
    simp [isStatementList, kind] at list
  obtain ⟨s', held⟩ := exists_scope_of_same file same (scopeThrough file (scopeBelow l scope) before)
  rw [scopeThrough, List.foldl_append] at first
  obtain ⟨around', earlier', scope', down, aliases, -⟩ := exists_visitsOf_inside file inside _ siblings' _ plain
  have visited : ⟨n, earlier', scope', around'⟩ ∈ visits file root := by
    apply sub
    apply List.mem_cons_of_mem
    apply first
    apply down
    rw [visitsOf_eq]
    exact List.mem_cons_self
  exact ⟨s', _, visited, rfl, aliases.trans (congrArg Scope.classAliases held)⟩

end Walk

end DeadCode.Collect
