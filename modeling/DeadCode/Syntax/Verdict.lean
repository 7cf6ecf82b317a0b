import DeadCode.Syntax.Tree

/-!
# Syntax errors

Whether a tree has an error, and where it is reported: at the first node that is an error or is missing, or at the root
where an error is only marked.
-/

namespace DeadCode
set_option autoImplicit false

/-- A text that does not parse. -/
structure ParseError where
  message : String
  line : Nat
  deriving DecidableEq, Repr

namespace Node

mutual

/-- Is there an error in the tree? -/
def hasError : Node → Bool
  | .mk i cs => i.flawed || i.kind == "ERROR" || i.missing || anyError cs

/-- Is there an error in one of the trees? -/
def anyError : List Node → Bool
  | [] => false
  | c :: cs => hasError c || anyError cs

end

mutual

/-- The nodes of a tree in document order. -/
def preorder : Node → List Node
  | .mk i cs => .mk i cs :: preorderAll cs

/-- The nodes of trees in document order. -/
def preorderAll : List Node → List Node
  | [] => []
  | c :: cs => preorder c ++ preorderAll cs

end

mutual

/-- The number of nodes of a tree. -/
def size : Node → Nat
  | .mk _ cs => sizeAll cs + 1

/-- The number of nodes of trees. -/
def sizeAll : List Node → Nat
  | [] => 0
  | c :: cs => size c + sizeAll cs

end

/-- A stack with nodes put on it from the last to the first, so that the first one is on top. -/
def push (stack cs : List Node) : List Node := cs.reverse.foldl (fun s c => c :: s) stack

theorem push_eq_append (stack cs : List Node) : push stack cs = cs ++ stack := by
  rw [push, List.foldl_flip_cons_eq_append, List.map_id', List.reverse_reverse]

theorem sizeAll_append (cs ds : List Node) : sizeAll (cs ++ ds) = sizeAll cs + sizeAll ds := by
  induction cs with
  | nil => rw [List.nil_append, sizeAll, Nat.zero_add]
  | cons c cs ih => rw [List.cons_append, sizeAll, sizeAll, ih, Nat.add_assoc]

/-- Taking a node off the stack and putting its children on leaves one node less to come to. -/
theorem sizeAll_push_lt (n : Node) (stack : List Node) : sizeAll (push stack n.children) < sizeAll (n :: stack) := by
  cases n with
  | mk i cs =>
    rw [push_eq_append, sizeAll_append, children, sizeAll, size]
    omega

/-- The nodes that a walk with a stack comes to: the node on top is taken off and listed, and its children go on. -/
def traverseFrom : List Node → List Node
  | [] => []
  | n :: stack => n :: traverseFrom (push stack n.children)
termination_by stack => sizeAll stack
decreasing_by exact sizeAll_push_lt n stack

/-- The walk from a root. -/
def traverse (root : Node) : List Node := traverseFrom [root]

/-- The node at which an error is reported. -/
def errorNode? (root : Node) : Option Node :=
  if root.hasError then
    some ((root.traverse.find? fun n => n.kind == "ERROR" || n.info.missing).getD root)
  else none

/-- The error of a tree, if it has one. -/
def verdict (root : Node) : Except ParseError Unit :=
  match root.errorNode? with
  | none => .ok ()
  | some n =>
    let at_ := " on line " ++ toString n.line
    .error ⟨if n.info.missing then "Syntax error: missing '" ++ n.kind ++ "'" ++ at_ else "Syntax error" ++ at_, n.line⟩

end Node
end DeadCode
