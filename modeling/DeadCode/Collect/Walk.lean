import DeadCode.Collect.Imports
import DeadCode.Scope

/-!
# The walk with scopes

`visits` lists the nodes of a tree in document order, each with the scope it stands in and the nodes around it. A class,
a function and the body of a namespace open a scope for what is below them. In a list of statements, a namespace
statement without a body starts a new scope for itself and what follows, and the imports of a `use` statement hold for
what follows it. A `StackWalk` gives the same list step by step.
-/

namespace DeadCode.Collect
set_option autoImplicit false

/-- The name that stands for every class without one. -/
def anonymousClass : String := "class@anonymous"

/-- A node with its siblings before it, the nearest first. -/
structure Place where
  node : Node
  earlier : List Node := []

/-- A node of the walk with its scope and the places around it, the innermost first. -/
structure Visit where
  node : Node
  earlier : List Node
  scope : Scope
  around : List Place

namespace Visit

/-- The node directly around. -/
def parent? (v : Visit) : Option Node := v.around.head?.map (·.node)

/-- The node around the parent. -/
def grandparent? (v : Visit) : Option Node := (v.around.drop 1).head?.map (·.node)

/-- Is this node the child of its parent with the field name? -/
def isField (v : Visit) (field : String) : Bool :=
  (v.parent?.bind (·.fieldIndex? field)) == some v.earlier.length

/-- Is this node the first named child of its parent? -/
def isFirstNamed (v : Visit) : Bool := v.node.info.named && !v.earlier.any (·.info.named)

end Visit

/-- The scope of what is below a node. -/
def scopeBelow (n : Node) (s : Scope) : Scope :=
  if n.kind == "namespace_definition" && (n.child? "body").isSome then s.enterNamespace (n.childText "name")
  else if n.isClassLike then
    let parent := if n.kind == "class_declaration" then n.baseNames.head?.map s.resolveClass else none
    s.enterClass (Name.qualify s.space (n.childText "name")) parent
  else if n.isAnonymousClass then s.enterClass anonymousClass (n.baseNames.head?.map s.resolveClass)
  else if n.kind == "function_definition" || n.kind == "method_declaration" then s.enterFunction (n.childText "name")
  else s

/-- Is the node a list of statements in which namespaces and imports take effect? -/
def isStatementList (n : Node) (parent : Option Node) : Bool :=
  n.kind == "program" || (n.kind == "compound_statement" && (parent.map Node.kind) == some "namespace_definition")

/-- The scope from a statement on: a namespace statement without a body starts afresh. -/
def scopeFrom (s : Scope) (statement : Node) : Scope :=
  if statement.kind == "namespace_definition" && (statement.child? "body").isNone then
    s.enterNamespace (statement.childText "name")
  else s

/-- The scope after a statement: its imports come into force. -/
def scopeAfter (file : String) (s : Scope) (statement : Node) : Scope :=
  if statement.kind == "namespace_use_declaration" then s.withImports (importsOf statement file) else s

mutual

/-- The walk from a node. -/
def visitsOf (file : String) (around : List Place) (earlier : List Node) (scope : Scope) : Node → List Visit
  | .mk i cs =>
    let n := Node.mk i cs
    let inner := ⟨n, earlier⟩ :: around
    ⟨n, earlier, scope, around⟩ ::
      visitsOfChildren file inner (isStatementList n (around.head?.map (·.node))) [] (scopeBelow n scope) cs

/-- The walk from the children of a node that are left. -/
def visitsOfChildren (file : String) (around : List Place) (statements : Bool) (earlier : List Node) (scope : Scope) :
    List Node → List Visit
  | [] => []
  | c :: cs =>
    if statements then
      let here := scopeFrom scope c
      visitsOf file around earlier here c ++
        visitsOfChildren file around statements (c :: earlier) (scopeAfter file here c) cs
    else visitsOf file around earlier scope c ++ visitsOfChildren file around statements (c :: earlier) scope cs

end

/-- The walk of a tree. -/
def visits (file : String) (root : Node) : List Visit := visitsOf file [] [] {} root

/-! The same walk with a stack, as one step after the other. -/

/-- The scope of a child: in a list of statements, a namespace statement starts afresh. -/
def scopeAt (statements : Bool) (s : Scope) (c : Node) : Scope := if statements then scopeFrom s c else s

/-- The scope that a child leaves to those after it. -/
def scopePast (file : String) (statements : Bool) (s : Scope) (c : Node) : Scope :=
  if statements then scopeAfter file (scopeFrom s c) c else s

/-- The visits of the children of a node that are left, without what is below them. -/
def childVisits (file : String) (around : List Place) (statements : Bool) (earlier : List Node) (scope : Scope) :
    List Node → List Visit
  | [] => []
  | c :: cs =>
    ⟨c, earlier, scopeAt statements scope c, around⟩ ::
      childVisits file around statements (c :: earlier) (scopePast file statements scope c) cs

/-- The visits of the children of a visited node. -/
def Visit.children (file : String) (v : Visit) : List Visit :=
  childVisits file (⟨v.node, v.earlier⟩ :: v.around) (isStatementList v.node v.parent?) [] (scopeBelow v.node v.scope)
    v.node.children

/-- A walk with a stack: the visits that were listed, and those to come, the next one first. -/
structure StackWalk where
  listed : List Visit
  pending : List Visit

namespace StackWalk

/-- The walk starts at the root. -/
def start (root : Node) : StackWalk := ⟨[], [⟨root, [], {}, []⟩]⟩

/-- The next visit is listed, and the children of its node go on the stack, the first on top. -/
def step (file : String) (w : StackWalk) : StackWalk :=
  match w.pending with
  | [] => w
  | v :: rest => ⟨w.listed ++ [v], v.children file ++ rest⟩

/-- A number of steps. -/
def run (file : String) : Nat → StackWalk → StackWalk
  | 0, w => w
  | k + 1, w => run file k (w.step file)

end StackWalk

end DeadCode.Collect
