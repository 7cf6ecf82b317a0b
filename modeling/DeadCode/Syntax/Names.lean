import DeadCode.Syntax.Tree

/-!
# Names in syntax trees

Which nodes stand for names, and the names in the heads of class declarations.
-/

namespace DeadCode.Node
set_option autoImplicit false

/-- Is the node a name, qualified or not? -/
def isName (n : Node) : Bool :=
  n.kind == "name" || n.kind == "qualified_name" || n.kind == "relative_name" || n.kind == "namespace_name"

/-- The named children that are names. -/
def nameChildren (n : Node) : List Node := n.namedChildren.filter isName

/-- The names of the first clause of a kind among the children. -/
def clauseNames (n : Node) (clause : String) : List String :=
  match n.children.find? (·.kind == clause) with
  | some c => c.nameChildren.map text
  | none => []

/-- The names that a class or interface extends. -/
def baseNames (n : Node) : List String := n.clauseNames "base_clause"

/-- The names that a class or enum implements. -/
def interfaceNames (n : Node) : List String := n.clauseNames "class_interface_clause"

/-- Is the node a declaration of a class, interface, trait or enum? -/
def isClassLike (n : Node) : Bool :=
  n.kind == "class_declaration" || n.kind == "interface_declaration" || n.kind == "trait_declaration" ||
    n.kind == "enum_declaration"

/-- Is the node a class without a name? Its body may also stand right below the `new` expression. -/
def isAnonymousClass (n : Node) : Bool :=
  n.kind == "anonymous_class" ||
    (n.kind == "object_creation_expression" && n.children.any (·.kind == "declaration_list"))

end DeadCode.Node
