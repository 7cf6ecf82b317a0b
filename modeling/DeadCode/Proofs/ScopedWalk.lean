import DeadCode.Proofs.Addresses
import DeadCode.Proofs.Places

/-!
# The walk and its scopes

What a walk is to give, said without a walk. `Stands` is the rule for scopes: a child has the scope that its parent opens
(`Opens`), and in a list of statements the scope is a new one from the last namespace statement on, and otherwise that of the
list, with the imports of the statements in between (`ChildScope`). The walk lists every node once and in document order, each
with the scope by rule, and the stack gives the same list step by step (`visits_exact`).
-/

namespace DeadCode.Collect
set_option autoImplicit false

/-- The scope that a node opens for what is below it: a namespace with a body, a class, a class without a name and a function
open one, and only a class declaration and a class without a name have a parent. -/
inductive Opens (n : Node) (s : Scope) : Scope → Prop
  | body (kind : n.kind = "namespace_definition") (body : (n.child? "body").isSome = true) :
      Opens n s { space := Name.trimSeparators (Name.clean (n.childText "name")) }
  | classDeclaration (kind : n.kind = "class_declaration") :
      Opens n s { s with
        currentClass := some (Name.qualify s.space (n.childText "name"))
        parentClass := n.baseNames.head?.map s.resolveClass
        function := none }
  | classLike (like : n.isClassLike = true) (kind : n.kind ≠ "class_declaration") :
      Opens n s { s with
        currentClass := some (Name.qualify s.space (n.childText "name"))
        parentClass := none
        function := none }
  | anonymous (class_ : n.isAnonymousClass = true) :
      Opens n s { s with
        currentClass := some anonymousClass
        parentClass := n.baseNames.head?.map s.resolveClass
        function := none }
  | function (kind : n.kind = "function_definition" ∨ n.kind = "method_declaration") :
      Opens n s { s with function := some (n.childText "name") }
  | nothing (body : n.kind = "namespace_definition" → (n.child? "body").isNone = true) (like : n.isClassLike = false)
      (class_ : n.isAnonymousClass = false) (kind : n.kind ≠ "function_definition" ∧ n.kind ≠ "method_declaration") :
      Opens n s s

/-- The scope of a child by rule. Its siblings before it are `before`, and `s` is the scope that their parent opens; the flag
tells whether the parent is a list of statements. -/
inductive ChildScope (file : String) (s : Scope) (before : List Node) (c : Node) : Bool → Scope → Prop
  | plain : ChildScope file s before c false s
  | statement (same : ∀ n ∈ before ++ [c], startsSection n = false) :
      ChildScope file s before c true (s.withImports (importsIn file before))
  | afresh {earlier since rest : List Node} {first : Node} (split : before = earlier ++ since)
      (from_ : since ++ [c] = first :: rest) (starts : startsSection first = true)
      (same : ∀ n ∈ rest, startsSection n = false) :
      ChildScope file s before c true
        (Scope.withImports { space := Name.trimSeparators (Name.clean (first.childText "name")) } (importsIn file since))

/-- Which node stands at an address, with the node around it and its scope by rule. -/
inductive Stands (file : String) (root : Node) : List Nat → Option Node → Node → Scope → Prop
  | root : Stands file root [] none root {}
  | child {a : List Nat} {parent : Option Node} {n c : Node} {s inner s' : Scope} {before after : List Node}
      (around : Stands file root a parent n s) (children : n.children = before ++ c :: after) (opens : Opens n s inner)
      (scope : ChildScope file inner before c (isStatementList n parent) s') :
      Stands file root (a ++ [before.length]) (some n) c s'

/-- The address of the node of a visit. -/
def Visit.address (v : Visit) : List Nat := v.path.dropLast.reverse

section Stack

variable (file : String)

/-- The walk from a visit on. -/
def Visit.walk (v : Visit) : List Visit := visitsOf file v.around v.earlier v.scope v.node

theorem visitsOfChildren_eq_flatMap (around : List Place) (statements : Bool) (earlier : List Node) (scope : Scope)
    (cs : List Node) :
    visitsOfChildren file around statements earlier scope cs =
      (childVisits file around statements earlier scope cs).flatMap (·.walk file) := by
  induction cs generalizing earlier scope with
  | nil => rfl
  | cons c cs ih =>
    rw [visitsOfChildren_cons, ih, childVisits, List.flatMap_cons]
    rfl

/-- A walk is the visit that it starts with, and then the walks of the children. -/
theorem walk_eq (v : Visit) : v.walk file = v :: (v.children file).flatMap (·.walk file) := by
  rw [Visit.walk, visitsOf_eq, visitsOfChildren_eq_flatMap]
  rfl

theorem flatMap_walk_eq_nil_iff {vs : List Visit} : vs.flatMap (·.walk file) = [] ↔ vs = [] := by
  cases vs with
  | nil => simp
  | cons v vs =>
    rw [List.flatMap_cons, walk_eq]
    simp

namespace StackWalk

/-- A step takes the first visit off what is still to be walked. -/
theorem step_spec (w : StackWalk) :
    (w.step file).listed = w.listed ++ (w.pending.flatMap (·.walk file)).take 1 ∧
      (w.step file).pending.flatMap (·.walk file) = (w.pending.flatMap (·.walk file)).drop 1 := by
  rw [step]
  split
  · next empty => simp [empty]
  · next v rest top => simp [top, walk_eq file v]

/-- After `k` steps, the first `k` visits of what was to be walked are listed. -/
theorem run_spec (k : Nat) (w : StackWalk) :
    (w.run file k).listed = w.listed ++ (w.pending.flatMap (·.walk file)).take k ∧
      (w.run file k).pending.flatMap (·.walk file) = (w.pending.flatMap (·.walk file)).drop k := by
  induction k generalizing w with
  | zero => simp [run]
  | succ k ih =>
    obtain ⟨listed, pending⟩ := step_spec file w
    obtain ⟨listed', pending'⟩ := ih (w.step file)
    rw [run, listed', pending', listed, pending, List.append_assoc, List.drop_drop, Nat.add_comm k 1, List.take_add]
    exact ⟨rfl, rfl⟩

/-- What holds at the root and passes from a node to its children holds of all visits that were listed or are to come. -/
theorem forall_run {P : Visit → Prop} (below : ∀ v, P v → ∀ w ∈ v.children file, P w) (k : Nat) (w : StackWalk)
    (listed : ∀ v ∈ w.listed, P v) (pending : ∀ v ∈ w.pending, P v) : ∀ v ∈ (w.run file k).listed, P v := by
  induction k generalizing w with
  | zero => exact listed
  | succ k ih =>
    rw [run, step]
    split
    · exact ih w listed pending
    · next v rest top =>
      rw [top] at pending
      have here : P v := pending v List.mem_cons_self
      refine ih ⟨w.listed ++ [v], v.children file ++ rest⟩ ?_ ?_
      · intro x mem
        rcases List.mem_append.1 mem with old | new
        · exact listed x old
        · exact List.mem_singleton.1 new ▸ here
      · intro x mem
        rcases List.mem_append.1 mem with new | old
        · exact below v here x new
        · exact pending x (List.mem_cons_of_mem v old)

theorem flatMap_walk_start (root : Node) : (start root).pending.flatMap (·.walk file) = visits file root := by
  rw [start, List.flatMap_singleton]
  rfl

end StackWalk

/-- What holds at the root and passes from a node to its children holds along the walk. -/
theorem forall_mem_visits {P : Visit → Prop} {root : Node} (top : P ⟨root, [], {}, []⟩)
    (below : ∀ v, P v → ∀ w ∈ v.children file, P w) : ∀ v ∈ visits file root, P v := by
  have listed := (StackWalk.run_spec file (visits file root).length (.start root)).1
  rw [StackWalk.flatMap_walk_start, List.take_length] at listed
  have all := StackWalk.forall_run file below (visits file root).length (.start root) (by simp [StackWalk.start])
    (by simpa [StackWalk.start] using top)
  rw [listed] at all
  exact all

end Stack

section Scopes

variable {file : String} {s s' : Scope} {before : List Node} {c : Node}

/-- The kinds of nodes that open a scope exclude each other. -/
theorem opens_iff {n : Node} : Opens n s s' ↔ s' = scopeBelow n s := by
  constructor
  · intro opens
    cases opens with
    | body kind body => simp [scopeBelow, kind, body, Scope.enterNamespace]
    | classDeclaration kind => simp [scopeBelow, Node.isClassLike, kind, Scope.enterClass]
    | classLike like kind =>
      have space : n.kind ≠ "namespace_definition" := by
        intro eq
        simp [Node.isClassLike, eq] at like
      simp [scopeBelow, like, kind, space, Scope.enterClass]
    | anonymous class_ =>
      have space : n.kind ≠ "namespace_definition" := by
        intro eq
        simp [Node.isAnonymousClass, eq] at class_
      have like : n.isClassLike = false := by
        rw [Node.isAnonymousClass, Bool.or_eq_true, Bool.and_eq_true, beq_iff_eq, beq_iff_eq] at class_
        rcases class_ with kind | ⟨kind, -⟩
        · simp [Node.isClassLike, kind]
        · simp [Node.isClassLike, kind]
      simp [scopeBelow, class_, space, like, Scope.enterClass]
    | function kind =>
      rcases kind with kind | kind
      · simp [scopeBelow, Node.isClassLike, Node.isAnonymousClass, kind, Scope.enterFunction]
      · simp [scopeBelow, Node.isClassLike, Node.isAnonymousClass, kind, Scope.enterFunction]
    | nothing body like class_ kind =>
      have space : (n.kind == "namespace_definition" && (n.child? "body").isSome) = false := by
        rw [Bool.and_eq_false_imp, beq_iff_eq]
        intro eq
        rw [Option.isSome_eq_false_iff, body eq]
      simp [scopeBelow, space, like, class_, kind]
  · rintro rfl
    rw [scopeBelow]
    split
    · next space =>
      rw [Bool.and_eq_true, beq_iff_eq] at space
      exact .body space.1 space.2
    · next space =>
      split
      · next like =>
        by_cases kind : n.kind = "class_declaration"
        · simpa [kind, Scope.enterClass] using Opens.classDeclaration kind
        · simpa [kind, Scope.enterClass] using Opens.classLike like kind
      · next like =>
        split
        · next class_ => exact .anonymous class_
        · next class_ =>
          split
          · next kind => exact .function (by simpa using kind)
          · next kind =>
            exact .nothing (by simpa using space) (by simpa using like) (by simpa using class_) (by simpa using kind)

theorem foldl_scopePast_false (s : Scope) (before : List Node) : before.foldl (scopePast file false) s = s := by
  induction before generalizing s with
  | nil => rfl
  | cons n before ih => exact ih s

/-- The last of the statements up to one at hand that starts a section, if there is any. -/
theorem exists_last_start (before : List Node) (c : Node) :
    (∀ n ∈ before ++ [c], startsSection n = false) ∨
      ∃ earlier since first rest, before = earlier ++ since ∧ since ++ [c] = first :: rest ∧ startsSection first = true ∧
        ∀ n ∈ rest, startsSection n = false := by
  induction before with
  | nil =>
    cases starts : startsSection c with
    | false => exact Or.inl (by simp [starts])
    | true => exact Or.inr ⟨[], [], c, [], rfl, rfl, starts, by simp⟩
  | cons m before ih =>
    rcases ih with same | ⟨earlier, since, first, rest, split, eq, starts, same⟩
    · cases starts : startsSection m with
      | false => exact Or.inl (List.forall_mem_cons.2 ⟨starts, same⟩)
      | true => exact Or.inr ⟨[], m :: before, m, before ++ [c], rfl, rfl, starts, same⟩
    · exact Or.inr ⟨m :: earlier, since, first, rest, by rw [split, List.cons_append], eq, starts, same⟩

theorem scopeFrom_of_starts (starts : startsSection c = true) (s : Scope) :
    scopeFrom s c = { space := Name.trimSeparators (Name.clean (c.childText "name")) } := by
  rw [scopeFrom, ← startsSection, if_pos starts]
  rfl

theorem scopeFrom_of_same (same : ∀ n ∈ before ++ [c], startsSection n = false) (s : Scope) :
    scopeFrom (scopeThrough file s before) c = s.withImports (importsIn file before) := by
  have plain : ∀ n ∈ before, startsSection n = false := fun n mem => same n (List.mem_append_left _ mem)
  have last : startsSection c = false := same c (List.mem_append_right _ List.mem_cons_self)
  rw [scopeThrough_of_not_starts file plain, scopeFrom_of_not_starts last]

/-- Nothing before the last namespace statement matters. -/
theorem scopeFrom_afresh {earlier since rest : List Node} {first : Node} (from_ : since ++ [c] = first :: rest)
    (starts : startsSection first = true) (same : ∀ n ∈ rest, startsSection n = false) (s : Scope) :
    scopeFrom (scopeThrough file s (earlier ++ since)) c =
      Scope.withImports { space := Name.trimSeparators (Name.clean (first.childText "name")) } (importsIn file since) := by
  rw [scopeThrough, List.foldl_append, ← scopeThrough, ← scopeThrough, scopeFrom_scopeThrough file from_ same,
    scopeFrom_of_starts starts]

/-- The scope that runs along a list of statements is the scope by rule. -/
theorem childScope_iff (statements : Bool) :
    ChildScope file s before c statements s' ↔ s' = scopeAt statements (before.foldl (scopePast file statements) s) c := by
  have running : scopeAt true (before.foldl (scopePast file true) s) c = scopeFrom (scopeThrough file s before) c := rfl
  constructor
  · intro rule
    cases rule with
    | plain =>
      rw [foldl_scopePast_false]
      rfl
    | statement same => rw [running, scopeFrom_of_same same]
    | afresh split from_ starts same =>
      subst split
      rw [running, scopeFrom_afresh from_ starts same]
  · rintro rfl
    cases statements with
    | false =>
      rw [foldl_scopePast_false]
      exact .plain
    | true =>
      rw [running]
      rcases exists_last_start before c with same | ⟨earlier, since, first, rest, rfl, from_, starts, same⟩
      · rw [scopeFrom_of_same same]
        exact .statement same
      · rw [scopeFrom_afresh from_ starts same]
        exact .afresh rfl from_ starts same

end Scopes

section Children

variable {file : String} {root : Node} {v w : Visit}

theorem mem_childVisits {around : List Place} {statements : Bool} {earlier : List Node} {scope : Scope} {cs : List Node} :
    w ∈ childVisits file around statements earlier scope cs ↔
      ∃ before after, cs = before ++ w.node :: after ∧ w.earlier = before.reverse ++ earlier ∧ w.around = around ∧
        w.scope = scopeAt statements (before.foldl (scopePast file statements) scope) w.node := by
  induction cs generalizing earlier scope with
  | nil => simp [childVisits]
  | cons c cs ih =>
    rw [childVisits, List.mem_cons, ih]
    constructor
    · rintro (rfl | ⟨before, after, rfl, eq, same, held⟩)
      · exact ⟨[], cs, rfl, rfl, rfl, rfl⟩
      · exact ⟨c :: before, after, rfl, by simpa using eq, same, held⟩
    · rintro ⟨before, after, split, eq, same, held⟩
      cases before with
      | nil =>
        obtain ⟨rfl, rfl⟩ := List.cons.inj split
        cases w
        exact Or.inl (by simp_all)
      | cons d before =>
        obtain ⟨rfl, rfl⟩ := List.cons.inj split
        exact Or.inr ⟨before, after, rfl, by simpa using eq, same, held⟩

/-- The children of a visited node, with their scopes by rule. -/
theorem mem_children :
    w ∈ v.children file ↔
      ∃ before after, v.node.children = before ++ w.node :: after ∧ w.earlier = before.reverse ∧
        w.around = ⟨v.node, v.earlier⟩ :: v.around ∧
        ∃ inner, Opens v.node v.scope inner ∧
          ChildScope file inner before w.node (isStatementList v.node v.parent?) w.scope := by
  rw [Visit.children, mem_childVisits]
  simp only [List.append_nil, childScope_iff, opens_iff, exists_eq_left]

theorem address_of_around {before : List Node} (earlier : w.earlier = before.reverse)
    (around : w.around = ⟨v.node, v.earlier⟩ :: v.around) : w.address = v.address ++ [before.length] := by
  rw [Visit.address, Visit.path, earlier, around, positions, List.map_cons, List.dropLast_cons_cons, List.reverse_cons,
    List.length_reverse]
  rfl

theorem parent?_of_around {p : Place} {around : List Place} (eq : w.around = p :: around) : w.parent? = some p.node := by
  rw [Visit.parent?, eq]
  rfl

/-- The nodes of the walk stand where they are to stand, in the scope by rule. -/
theorem stands_of_mem_visits : ∀ v ∈ visits file root, Stands file root v.address v.parent? v.node v.scope := by
  refine forall_mem_visits file .root fun v stands w mem => ?_
  obtain ⟨before, after, children, earlier, around, inner, opens, scope⟩ := mem_children.1 mem
  rw [address_of_around earlier around, parent?_of_around around]
  exact .child stands children opens scope

/-- The walk comes to every node. -/
theorem exists_visit_of_stands {a : List Nat} {parent : Option Node} {n : Node} {s : Scope}
    (stands : Stands file root a parent n s) :
    ∃ v ∈ visits file root, v.address = a ∧ v.parent? = parent ∧ v.node = n ∧ v.scope = s := by
  induction stands with
  | root =>
    refine ⟨⟨root, [], {}, []⟩, ?_, rfl, rfl, rfl, rfl⟩
    rw [visits, visitsOf_eq]
    exact List.mem_cons_self
  | @child _ _ _ c _ inner s' before after _ children opens scope ih =>
    obtain ⟨v, visited, rfl, rfl, rfl, rfl⟩ := ih
    have mem : ⟨c, before.reverse, s', ⟨v.node, v.earlier⟩ :: v.around⟩ ∈ v.children file :=
      mem_children.2 ⟨before, after, children, rfl, rfl, inner, opens, scope⟩
    rw [← filter_path_visits file visited] at mem
    exact ⟨_, (List.mem_filter.1 mem).1, address_of_around rfl rfl, rfl, rfl, rfl⟩

end Children

section Order

variable (file : String)

mutual

theorem map_address_visitsOf (around : List Place) (earlier : List Node) (scope : Scope) :
    (n : Node) → (visitsOf file around earlier scope n).map (fun v => (v.address, v.node)) =
      n.addressed (earlier.length :: positions around).dropLast.reverse
  | .mk i cs => by
    rw [visitsOf, Node.addressed, List.map_cons, map_address_visitsOfChildren]
    rfl

theorem map_address_visitsOfChildren (p : Place) (around : List Place) (statements : Bool) (earlier : List Node)
    (scope : Scope) :
    (cs : List Node) →
      (visitsOfChildren file (p :: around) statements earlier scope cs).map (fun v => (v.address, v.node)) =
        Node.addressedAll (positions (p :: around)).dropLast.reverse earlier.length cs
  | [] => rfl
  | c :: cs => by
    rw [visitsOfChildren_cons, List.map_append, map_address_visitsOf, map_address_visitsOfChildren, Node.addressedAll,
      positions, List.map_cons, List.dropLast_cons_cons, List.reverse_cons, List.length_cons]

end

/-- The walk lists the nodes with their addresses. -/
theorem map_address_visits (root : Node) :
    (visits file root).map (fun v => (v.address, v.node)) = root.addressed [] :=
  map_address_visitsOf file [] [] {} root

end Order

/-- **The walk is exact.** It lists each node of a tree once and in document order: addresses grow along it, and it has a visit
for every address. The scope of a node is the one by rule. A walk that keeps the visits to come on a stack has listed the first
`k` of them after `k` steps, and its stack is empty exactly when all are listed. -/
theorem visits_exact (file : String) (root : Node) :
    (visits file root).Pairwise (fun v w => Node.Precedes v.address w.address) ∧
    (∀ a n, root.at? a = some n ↔ ∃ v ∈ visits file root, v.address = a ∧ v.node = n) ∧
    (∀ a parent n s, Stands file root a parent n s ↔
      ∃ v ∈ visits file root, v.address = a ∧ v.parent? = parent ∧ v.node = n ∧ v.scope = s) ∧
    ∀ k, ((StackWalk.start root).run file k).listed = (visits file root).take k ∧
      (((StackWalk.start root).run file k).pending = [] ↔ (visits file root).length ≤ k) := by
  have addresses := map_address_visits file root
  refine ⟨?_, ?_, ?_, ?_⟩
  · have sorted := Node.pairwise_addressed [] root
    rw [← addresses, List.pairwise_map] at sorted
    exact sorted
  · intro a n
    rw [← Node.mem_addressed_nil, ← addresses, List.mem_map]
    simp only [Prod.mk.injEq]
  · intro a parent n s
    constructor
    · exact exists_visit_of_stands
    · rintro ⟨v, visited, rfl, rfl, rfl, rfl⟩
      exact stands_of_mem_visits v visited
  · intro k
    obtain ⟨listed, pending⟩ := StackWalk.run_spec file k (.start root)
    rw [StackWalk.flatMap_walk_start] at listed pending
    refine ⟨listed, ?_⟩
    rw [← flatMap_walk_eq_nil_iff file, pending, List.drop_eq_nil_iff]

end DeadCode.Collect
