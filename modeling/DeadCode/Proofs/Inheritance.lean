import DeadCode.Proofs.ClassIdentity
import DeadCode.Proofs.ClassUses
import DeadCode.Proofs.Hierarchy
import DeadCode.Proofs.Places
import Mathlib.Data.List.Flatten

/-!
# What a class builds on

The names in the head of a class and in its trait lines are read twice: for the symbol of the class, in the scope around it,
and as references, in the scope of the class. Inside and outside, a name that is no word for the class at hand means the same
(`resolveClass_enterClass`). So the references that come from the clauses of a class and from the trait lines of its body
have exactly the names that its symbol lists, in the same order (`inherited_references`).
-/

namespace DeadCode
set_option autoImplicit false

/-- Inside a class a name means what it means outside, unless it is a word for the class at hand. -/
theorem Scope.resolveClass_enterClass (s : Scope) (fqn : String) (parent : Option String) {raw : String}
    (user : Name.isBuiltinType raw = false) : (s.enterClass fqn parent).resolveClass raw = s.resolveClass raw := by
  have absolute := Name.isRelative_of_user user
  simp only [Name.isRelative, Name.relativeWords, List.contains_cons, List.contains_nil, Bool.or_false,
    Bool.or_eq_false_iff] at absolute
  obtain ⟨notSelf, notStatic, notParent⟩ := absolute
  unfold resolveClass
  simp only [notSelf, notStatic, notParent, Bool.or_self, Bool.false_eq_true, if_false]
  rfl

namespace Collect

/-- The clauses that a class inherits by, each with the kind of its references. -/
def inheritanceClauses : List (String × ReferenceKind) :=
  [("base_clause", .extension), ("class_interface_clause", .implementation), ("use_declaration", .traitUse)]

/-- The references that the children of one kind give, for the node at a place. -/
def referencesBelow (file : String) (root : Node) (path : List Nat) (clause : String) : List Reference :=
  ((visits file root).filter fun w => w.path.tail == path && w.node.kind == clause).flatMap (referencesAt file)

/-- Of names that are listed with the way they are written, those that are neither empty nor types of the language. -/
def keptNames (raws names : List String) : List String :=
  ((raws.zip names).filter fun e => !(e.1.isEmpty || Name.isBuiltinType e.1)).map (·.2)

/-- The references have the names that a class lists, in order. Each is one that keeps the named class alive, stands inside
the class, and belongs to an edge of the hierarchy of every table with the class. -/
structure Tells (s : Symbol) (kind : ReferenceKind) (raws names : List String) (rs : List Reference) : Prop where
  inOrder : rs.map (·.name) = keptNames raws names
  bearing : ∀ r ∈ rs, r.kind = kind ∧ r.classNames = [Text.lower r.name] ∧ r.enclosing = some s.fqn ∧
    ∀ t : SymbolTable, s ∈ t.symbols → (Text.lower s.fqn, Text.lower r.name) ∈ t.edges

theorem referencesBelow_sublist (file : String) (root : Node) (path : List Nat) (clause : String) :
    (referencesBelow file root path clause).Sublist (references file root) :=
  List.filter_sublist.flatMap _

section Clauses

variable {file : String} {v : Visit} {clause : String} {kind : ReferenceKind}

theorem referencesAt_of_clause (listed : (clause, kind) ∈ inheritanceClauses) (at_ : v.node.kind = clause) :
    referencesAt file v = clauseReferences file v kind := by
  unfold referencesAt
  simp only [inheritanceClauses, List.mem_cons, Prod.mk.injEq, List.not_mem_nil, or_false] at listed
  rcases listed with ⟨rfl, rfl⟩ | ⟨rfl, rfl⟩ | ⟨rfl, rfl⟩
  all_goals simp only [at_]

theorem flatMap_childVisits (listed : (clause, kind) ∈ inheritanceClauses) (around : List Place) (earlier : List Node)
    (scope : Scope) (cs : List Node) :
    ((childVisits file around false earlier scope cs).filter (·.node.kind == clause)).flatMap (referencesAt file) =
      (cs.filter (·.kind == clause)).flatMap fun c => c.nameChildren.flatMap (classReference file scope kind) := by
  induction cs generalizing earlier with
  | nil => rfl
  | cons c cs ih =>
    rw [childVisits, List.filter_cons, List.filter_cons]
    by_cases at_ : c.kind = clause
    · rw [if_pos (beq_iff_eq.2 at_), if_pos (beq_iff_eq.2 at_), List.flatMap_cons, List.flatMap_cons,
        referencesAt_of_clause listed at_]
      exact congrArg _ (ih _)
    · rw [if_neg (mt beq_iff_eq.1 at_), if_neg (mt beq_iff_eq.1 at_)]
      exact ih _

/-- What the clauses below a node tell, where the node is no list of statements. -/
theorem referencesBelow_eq {root : Node} (visited : v ∈ visits file root) (plain : isStatementList v.node v.parent? = false)
    (listed : (clause, kind) ∈ inheritanceClauses) :
    referencesBelow file root v.path clause = (v.node.children.filter (·.kind == clause)).flatMap fun c =>
      c.nameChildren.flatMap (classReference file (scopeBelow v.node v.scope) kind) := by
  have split : (visits file root).filter (fun w => w.path.tail == v.path && w.node.kind == clause) =
      (v.children file).filter (·.node.kind == clause) := by
    rw [← filter_path_visits file visited, List.filter_filter]
    simp only [Bool.and_comm]
  rw [referencesBelow, split, Visit.children, plain]
  exact flatMap_childVisits listed _ _ _ _

end Clauses

section Classes

variable {file : String} {v : Visit}

theorem isStatementList_of_isClassLike (like : v.node.isClassLike = true) (parent : Option Node) :
    isStatementList v.node parent = false := by
  simp only [Node.isClassLike, Bool.or_eq_true, beq_iff_eq] at like
  rcases like with ((kind | kind) | kind) | kind
  all_goals simp [isStatementList, kind]

/-- Below a class-like node names are looked up inside the class. -/
theorem scopeBelow_of_isClassLike (like : v.node.isClassLike = true) :
    ∃ parent, scopeBelow v.node v.scope = v.scope.enterClass v.className parent := by
  have other : (v.node.kind == "namespace_definition") = false := by
    simp only [Node.isClassLike, Bool.or_eq_true, beq_iff_eq] at like
    rcases like with ((kind | kind) | kind) | kind
    all_goals simp [kind]
  rw [scopeBelow, other, Bool.false_and, if_neg Bool.false_ne_true, if_pos like]
  exact ⟨_, rfl⟩

theorem keptNames_cons (raw name : String) (raws names : List String) :
    keptNames (raw :: raws) (name :: names) =
      (if raw.isEmpty || Name.isBuiltinType raw then [] else [name]) ++ keptNames raws names := by
  rw [keptNames, List.zip_cons_cons, List.filter_cons]
  by_cases skipped : (raw.isEmpty || Name.isBuiltinType raw) = true
  · simp [skipped, keptNames]
  · simp [skipped, keptNames]

theorem keptNames_subset (raws names : List String) : keptNames raws names ⊆ names := by
  intro name mem
  obtain ⟨e, kept, rfl⟩ := List.mem_map.1 mem
  exact (List.of_mem_zip (List.mem_filter.1 kept).1).2

/-- Class names read inside a class tell what the class lists for them, read outside. -/
theorem tells_classReferences (like : v.node.isClassLike = true) {clause : String} {kind : ReferenceKind}
    (listed : (clause, kind) ∈ inheritanceClauses) (names : List Node)
    (among : (names.map Node.text).map v.scope.resolveClass ⊆ (classSymbol file v).supertypes) :
    Tells (classSymbol file v) kind (names.map Node.text) ((names.map Node.text).map v.scope.resolveClass)
      (names.flatMap (classReference file (scopeBelow v.node v.scope) kind)) := by
  obtain ⟨parent, below⟩ := scopeBelow_of_isClassLike like
  have inOrder : (names.flatMap (classReference file (scopeBelow v.node v.scope) kind)).map (·.name) =
      keptNames (names.map Node.text) ((names.map Node.text).map v.scope.resolveClass) := by
    clear among
    induction names with
    | nil => rfl
    | cons n names ih =>
      rw [List.flatMap_cons, List.map_append, ih, List.map_cons, List.map_cons, keptNames_cons, classReference]
      congr 1
      split
      · rfl
      · next kept =>
        rw [Bool.or_eq_true, not_or, Bool.not_eq_true, Bool.not_eq_true] at kept
        have same := v.scope.resolveClass_enterClass v.className parent kept.2
        rw [below, List.map_singleton, referenceAt, same]
  refine ⟨inOrder, fun r mem => ?_⟩
  have name : r.name ∈ (classSymbol file v).supertypes := by
    apply among
    apply keptNames_subset
    rw [← inOrder]
    exact List.mem_map_of_mem mem
  have edge : ∀ t : SymbolTable, classSymbol file v ∈ t.symbols →
      (Text.lower (classSymbol file v).fqn, Text.lower r.name) ∈ t.edges := by
    intro t given
    exact SymbolTable.mem_edges_iff_buildsOn.2
      ⟨classSymbol file v, given, isClassLike_classSymbol file v, rfl, r.name, name, rfl⟩
  obtain ⟨n, -, here⟩ := List.mem_flatMap.1 mem
  have inside : r.enclosing = some (classSymbol file v).fqn := by
    rw [enclosing_classReference here, below]
    rfl
  rw [classReference] at here
  split at here
  · cases here
  · obtain rfl := List.mem_singleton.1 here
    refine ⟨rfl, ?_, inside, edge⟩
    simp only [inheritanceClauses, List.mem_cons, Prod.mk.injEq, List.not_mem_nil, or_false] at listed
    rcases listed with ⟨-, rfl⟩ | ⟨-, rfl⟩ | ⟨-, rfl⟩
    all_goals rfl

theorem filter_eq_toList_find? {p : Node → Bool} {ns : List Node} (single : (ns.filter p).length ≤ 1) :
    ns.filter p = (ns.find? p).toList := by
  rw [← List.head?_filter]
  match found : ns.filter p with
  | [] => rfl
  | [n] => rfl
  | n :: m :: rest =>
    rw [found] at single
    simp at single

/-- The clause of a class, if there is at most one of its kind, tells what the class lists from it. -/
theorem tells_clause {root : Node} (visited : v ∈ visits file root) (like : v.node.isClassLike = true) {clause : String}
    {kind : ReferenceKind} (listed : (clause, kind) ∈ inheritanceClauses)
    (single : (v.node.children.filter (·.kind == clause)).length ≤ 1)
    (among : (v.node.clauseNames clause).map v.scope.resolveClass ⊆ (classSymbol file v).supertypes) :
    Tells (classSymbol file v) kind (v.node.clauseNames clause) ((v.node.clauseNames clause).map v.scope.resolveClass)
      (referencesBelow file root v.path clause) := by
  have written : v.node.clauseNames clause =
      ((v.node.children.find? (·.kind == clause)).toList.flatMap Node.nameChildren).map Node.text := by
    rw [Node.clauseNames]
    cases v.node.children.find? (·.kind == clause) with
    | none => rfl
    | some c => simp
  rw [referencesBelow_eq visited (isStatementList_of_isClassLike like _) listed, filter_eq_toList_find? single,
    ← List.flatMap_assoc]
  rw [written] at among ⊢
  exact tells_classReferences like listed _ among

/-- The visit of a child of a node that is no list of statements. -/
theorem exists_childVisit (file : String) (around : List Place) (earlier : List Node) (scope : Scope) {cs : List Node}
    {i : Nat} {c : Node} (at_ : cs[i]? = some c) : ∃ w ∈ childVisits file around false earlier scope cs,
      w.node = c ∧ w.scope = scope ∧ w.around = around ∧ w.earlier.length = earlier.length + i := by
  induction cs generalizing earlier i with
  | nil => simp at at_
  | cons d cs ih =>
    cases i with
    | zero =>
      obtain rfl := Option.some.inj at_
      exact ⟨_, List.mem_cons_self, rfl, rfl, rfl, rfl⟩
    | succ i =>
      rw [List.getElem?_cons_succ] at at_
      obtain ⟨w, mem, node, scope', around', length⟩ := ih (d :: earlier) at_
      rw [List.length_cons] at length
      exact ⟨w, List.mem_cons_of_mem _ mem, node, scope', around', by omega⟩

/-- The child with a field name stands at the place of the field. -/
theorem getElem?_of_fieldIndex? {n : Node} {field : String} {i : Nat} (index : n.fieldIndex? field = some i) :
    n.children[i]? = n.child? field := by
  rw [Node.fieldIndex?] at index
  rw [Node.child?]
  generalize n.children = cs at index ⊢
  induction cs generalizing i with
  | nil => cases index
  | cons c cs ih =>
    rw [List.findIdx?_cons] at index
    rw [List.find?_cons]
    cases here : c.info.field == some field with
    | true =>
      rw [here, if_pos rfl] at index
      obtain rfl := Option.some.inj index
      rfl
    | false =>
      rw [here, if_neg Bool.false_ne_true] at index
      obtain ⟨j, later, rfl⟩ := Option.map_eq_some_iff.1 index
      exact ih later

/-- A list of members is no list of statements and opens no scope. -/
theorem plain_of_declaration_list {n : Node} (list : n.kind = "declaration_list") (parent : Option Node) (s : Scope) :
    isStatementList n parent = false ∧ scopeBelow n s = s := by
  constructor
  · simp [isStatementList, list]
  · simp [scopeBelow, Node.isClassLike, Node.isAnonymousClass, list]

/-- The trait lines in the body of a class tell the traits that the class lists. -/
theorem tells_traits {root : Node} (visited : v ∈ visits file root) (like : v.node.isClassLike = true) {place : Nat}
    {body : Node} (field : v.node.fieldIndex? "body" = some place) (block : v.node.child? "body" = some body)
    (list : body.kind = "declaration_list")
    (lines : ∀ u ∈ body.children, u.kind = "use_declaration" → u.info.named = true) :
    Tells (classSymbol file v) .traitUse (traitNames v.node) (classSymbol file v).traits
      (referencesBelow file root (place :: v.path) "use_declaration") := by
  have plain := isStatementList_of_isClassLike like v.parent?
  obtain ⟨w, child, rfl, scope, around, length⟩ := exists_childVisit file (⟨v.node, v.earlier⟩ :: v.around) []
    (scopeBelow v.node v.scope) ((getElem?_of_fieldIndex? field).trans block)
  have below : w ∈ v.children file := by rwa [Visit.children, plain]
  rw [← filter_path_visits file visited] at below
  have path : w.path = place :: v.path := by
    rw [Visit.path, around, length, List.length_nil, Nat.zero_add]
    rfl
  obtain ⟨single, same⟩ := plain_of_declaration_list list w.parent? w.scope
  have named : w.node.namedChildren.filter (·.kind == "use_declaration") =
      w.node.children.filter (·.kind == "use_declaration") := by
    rw [Node.namedChildren, List.filter_filter]
    refine List.filter_congr fun u mem => ?_
    by_cases line : u.kind = "use_declaration"
    · simp [line, lines u mem line]
    · simp [line]
  have written : traitNames v.node =
      ((w.node.children.filter (·.kind == "use_declaration")).flatMap Node.nameChildren).map Node.text := by
    simp only [traitNames, block, named, List.map_flatMap]
  have listed : ("use_declaration", ReferenceKind.traitUse) ∈ inheritanceClauses := by simp [inheritanceClauses]
  rw [← path, referencesBelow_eq (List.mem_filter.1 below).1 single listed, same, scope, ← List.flatMap_assoc]
  have among : (traitNames v.node).map v.scope.resolveClass ⊆ (classSymbol file v).supertypes :=
    List.subset_append_right ..
  rw [show (classSymbol file v).traits = (traitNames v.node).map v.scope.resolveClass from rfl]
  rw [written] at among ⊢
  exact tells_classReferences like listed _ among

/-- **References and symbols agree on what a class builds on.** Take a class-like node anywhere in a tree, with at most one
clause of each kind in its head and a body whose trait lines are named nodes. Its symbol is collected, and of the references
of the tree, those that come from the clauses and from the trait lines have, in order, the names that the symbol lists as its
parents, interfaces and traits, but for those written as nothing or as a type of the language. -/
theorem inherited_references {root : Node} {place : Nat} {body : Node} (visited : v ∈ visits file root)
    (like : v.node.isClassLike = true) (bases : (v.node.children.filter (·.kind == "base_clause")).length ≤ 1)
    (interfaces : (v.node.children.filter (·.kind == "class_interface_clause")).length ≤ 1)
    (field : v.node.fieldIndex? "body" = some place) (block : v.node.child? "body" = some body)
    (list : body.kind = "declaration_list")
    (lines : ∀ u ∈ body.children, u.kind = "use_declaration" → u.info.named = true) :
    classSymbol file v ∈ symbols file root ∧
      (∀ path clause, (referencesBelow file root path clause).Sublist (references file root)) ∧
      Tells (classSymbol file v) .extension v.node.baseNames (classSymbol file v).parents
        (referencesBelow file root v.path "base_clause") ∧
      Tells (classSymbol file v) .implementation v.node.interfaceNames (classSymbol file v).interfaces
        (referencesBelow file root v.path "class_interface_clause") ∧
      Tells (classSymbol file v) .traitUse (traitNames v.node) (classSymbol file v).traits
        (referencesBelow file root (place :: v.path) "use_declaration") := by
  refine ⟨classSymbol_mem_symbols visited like, referencesBelow_sublist file root, ?_, ?_, tells_traits visited like field block list lines⟩
  · apply tells_clause visited like (by simp [inheritanceClauses]) bases
    intro name mem
    exact List.mem_append_left _ (List.mem_append_left _ mem)
  · apply tells_clause visited like (by simp [inheritanceClauses]) interfaces
    intro name mem
    exact List.mem_append_left _ (List.mem_append_right _ mem)

end Classes

section Samples

open Context (sampleNode sampleField spaceStatement toolImports)

def boilerBody : Node :=
  sampleField "body" "declaration_list" "" [
    sampleNode "use_declaration" "" [sampleNode "name" "Logs" [], sampleNode "qualified_name" "Tool\\Counts" []],
    sampleNode "use_declaration" "" [sampleNode "relative_name" "namespace\\Rests" []]]

/-- A class with imported names in its head and its trait lines, and with itself among its interfaces. -/
def boilerClass : Node :=
  sampleNode "class_declaration" "" [sampleField "name" "name" "Boiler" [],
    sampleNode "base_clause" "" [sampleNode "name" "tool" []],
    sampleNode "class_interface_clause" "" [sampleNode "name" "Hot" [], sampleNode "name" "self" [],
      sampleNode "qualified_name" "\\Countable" []],
    boilerBody]

def boilerFile : Node := sampleNode "program" "" (spaceStatement :: toolImports ++ [boilerClass])

/-- The visit of the class. -/
def boilerVisit : Visit := ((visits "a.php" boilerFile).find? (·.node.isClassLike)).get (by decide +kernel)

theorem inherited_references_boiler :
    boilerVisit ∈ visits "a.php" boilerFile ∧ boilerVisit.node.isClassLike = true ∧
      boilerVisit.node.child? "body" = some boilerBody ∧
      classSymbol "a.php" boilerVisit ∈ symbols "a.php" boilerFile ∧
      (classSymbol "a.php" boilerVisit).interfaces = ["App\\Hot", "self", "Countable"] ∧
      (referencesBelow "a.php" boilerFile boilerVisit.path "base_clause").map (·.name) = ["Lib\\Kit"] ∧
      (referencesBelow "a.php" boilerFile boilerVisit.path "class_interface_clause").map (·.name) =
        ["App\\Hot", "Countable"] ∧
      (referencesBelow "a.php" boilerFile (3 :: boilerVisit.path) "use_declaration").map (·.name) =
        ["App\\Logs", "Lib\\Kit\\Counts", "App\\Rests"] := by
  have visited : boilerVisit ∈ visits "a.php" boilerFile := List.get_find?_mem ..
  have like : boilerVisit.node.isClassLike = true := by decide +kernel
  have index : boilerVisit.node.fieldIndex? "body" = some 3 := by decide +kernel
  have body : boilerVisit.node.child? "body" = some boilerBody := rfl
  obtain ⟨collected, -, bases, interfaces, traits⟩ := inherited_references visited like (by decide +kernel)
    (by decide +kernel) index body (by decide +kernel) (by decide +kernel)
  rw [bases.inOrder, interfaces.inOrder, traits.inOrder]
  refine ⟨visited, like, body, collected, ?_⟩
  decide +kernel

end Samples

end Collect

end DeadCode
