import DeadCode.Php.Parser

/-!
# Names, variables and types

Names with their namespaces, variables and the types of declarations.
-/

namespace DeadCode.Php
set_option autoImplicit false

open Php.Parser Layout

/-- The parts of a path after its first name. A separator before a brace ends the path. -/
def pathRest : Nat → Parser (List Layout)
  | 0 => fail
  | n + 1 => do
    if (← atSign "\\") && !(← thenSign "\x7b") then
      let s ← sign "\\"
      let m ← name
      return s :: m :: (← pathRest n)
    else return []

/-- A path of names, as it stands after `namespace`. -/
def namespaceName (limit : Nat) : Parser Layout := do
  let first ← name
  return branch "namespace_name" (first :: (← pathRest limit))

/-- The node of a name from its root separator, if there is one, and its parts. -/
def nameNode (root parts : List Layout) : Layout :=
  match parts.getLast?, parts.dropLast with
  | some last, [] => if root.isEmpty then last else branch "qualified_name" (root ++ [last])
  | some last, before =>
    branch "qualified_name" (root ++ [(branch "namespace_name" before.dropLast).inField "prefix"] ++
      before.getLast?.toList ++ [last])
  | none, _ => branch "qualified_name" root

/-- A name: plain, with a namespace, or relative to the namespace at hand. -/
def anyName (limit : Nat) : Parser Layout := do
  if (← atWord "namespace") && (← thenSign "\\") then
    let first ← word "namespace"
    return branch "relative_name" (first :: (← pathRest limit))
  let root ← sign? "\\"
  let first ← name
  return nameNode root (first :: (← pathRest limit))

/-- A variable: a plain one, one named by a variable, or one named by an expression in braces. -/
def variableName (r : Rules) : Nat → Parser Layout
  | 0 => fail
  | n + 1 => do
    let mark ← sign "$"
    if ← atSign "\x7b" then
      let o ← sign "\x7b"
      let e ← r.expression 0
      return branch "dynamic_variable_name" [mark, o, e, ← sign "\x7d"]
    else if ← atSign "$" then return branch "dynamic_variable_name" [mark, ← variableName r n]
    else return branch "variable_name" [mark, ← name]

/-- A variable taken by reference. -/
def byReference (r : Rules) : Parser Layout := do
  let mark ← sign "&"
  return branch "by_ref" [mark, ← r.expression 22]

/-- The types of the language that are written in small letters. -/
def primitiveTypes : List String := [
  "array", "bool", "callable", "false", "float", "int", "iterable", "mixed", "null", "object", "string", "true", "void"]

/-- A type that is one name. -/
def simpleType (limit : Nat) : Parser Layout := do
  let t := (← next?).getD default
  let after := (← second?).getD default
  if t.kind == .word && primitiveTypes.contains t.key && !after.isSign "\\" then
    return (← take).leaf "primitive_type"
  else if t.isWord "never" then return (← take).leaf "bottom_type"
  else return branch "named_type" [← anyName limit]

/-- Does the type go on with an intersection? An ampersand before a variable belongs to the variable. -/
def atIntersection : Parser Bool := do
  let after := (← second?).getD default
  return (← atSign "&") && !after.isSign "$" && !after.isSign "..."

/-- The parts of a type after the first, with the signs between them. -/
def typeRest (part : Parser Layout) : Nat → Parser (List Layout)
  | 0 => fail
  | n + 1 => do
    if (← atSign "|") || (← atIntersection) then
      let s := (← take).mark
      let p ← part
      return s :: p :: (← typeRest part n)
    else return []

/-- Types joined by signs. -/
def joinedType (part : Parser Layout) (limit : Nat) : Parser Layout := do
  let first ← part
  let rest ← typeRest part limit
  if rest.isEmpty then return first
  else return branch (if rest.any (·.kind == "|") then "union_type" else "intersection_type") (first :: rest)

/-- A part of a type: a name, or an intersection in brackets. -/
def typePart (limit : Nat) : Parser Layout := do
  if ← atSign "(" then
    let o ← sign "("
    let t ← joinedType (simpleType limit) limit
    return branch "disjunctive_normal_form_type" [o, t, ← sign ")"]
  else simpleType limit

/-- A type. -/
def anyType (limit : Nat) : Parser Layout := do
  if ← atSign "?" then
    let q ← sign "?"
    return branch "optional_type" [q, ← simpleType limit]
  else joinedType (typePart limit) limit

end DeadCode.Php
