import DeadCode.Php.Classes

/-!
# Expressions

Operators bind by strength; an assignment may stand wherever its left side may. Calls, members and subscripts follow
their operand.
-/

namespace DeadCode.Php
set_option autoImplicit false

open Php.Parser Layout

/-- How strongly a sign binds two operands, and whether it groups to the right. -/
def signStrength? (s : String) : Option (Nat × Bool) :=
  match s with
  | "??" => some (6, true)
  | "||" => some (7, false)
  | "&&" => some (8, false)
  | "|" => some (9, false)
  | "^" => some (10, false)
  | "&" => some (11, false)
  | "==" | "!=" | "<>" | "===" | "!==" | "<=>" => some (12, false)
  | "<" | ">" | "<=" | ">=" => some (13, false)
  | "." => some (14, false)
  | "<<" | ">>" => some (15, false)
  | "+" | "-" => some (16, false)
  | "*" | "/" | "%" => some (17, false)
  | "**" => some (18, true)
  | _ => none

/-- How strongly a word binds two operands. -/
def wordStrength? (w : String) : Option Nat :=
  match w with
  | "or" => some 1
  | "xor" => some 2
  | "and" => some 3
  | _ => none

/-- How strongly a token binds two operands, and whether it groups to the right. -/
def strength? (t : Token) : Option (Nat × Bool) :=
  if t.kind == .sign then signStrength? t.key
  else if t.kind == .word then (wordStrength? t.key).map fun n => (n, false)
  else none

/-- Signs that assign the result of an operation. -/
def updateSigns : List String := ["+=", "-=", "*=", "**=", "/=", ".=", "%=", "&=", "|=", "^=", "<<=", ">>=", "??="]

/-- Nodes that can be assigned to. -/
def isAssignable (l : Layout) : Bool :=
  ["variable_name", "dynamic_variable_name", "subscript_expression", "member_access_expression",
    "nullsafe_member_access_expression", "scoped_property_access_expression", "function_call_expression",
    "member_call_expression", "nullsafe_member_call_expression", "scoped_call_expression", "list_literal",
    "cast_expression"].contains l.kind

/-- Words that name the type of a cast. -/
def castTypes : List String := [
  "array", "binary", "bool", "boolean", "double", "int", "integer", "float", "object", "real", "string", "unset"]

/-- The index after the sign that closes a bracket, given the number of brackets that are open. -/
def afterBracket : Nat → List Token → List Token
  | _, [] => []
  | depth, t :: ts =>
    if t.isSign "(" || t.isSign "[" || t.isSign "#[" || t.isSign "\x7b" then afterBracket (depth + 1) ts
    else if t.isSign ")" || t.isSign "]" || t.isSign "\x7d" then
      if depth ≤ 1 then ts else afterBracket (depth - 1) ts
    else afterBracket depth ts

/-- Does an assignment follow the bracket that opens here? -/
def bracketAssigned : Parser Bool := fun ts =>
  some ((((afterBracket 0 ts).head?).map (·.isSign "=")).getD false, ts)

/-- The name of a member, after the arrow or the colons. -/
def memberName (r : Rules) : Parser (List Layout) := do
  if ← atSign "\x7b" then
    let o ← sign "\x7b"
    let e ← r.expression 0
    return [o, e.inField "name", ← sign "\x7d"]
  else if ← atSign "$" then return [(← variableName r r.limit).inField "name"]
  else return [(← name).inField "name"]

/-- A member after an arrow. -/
def memberSuffix (r : Rules) (object : Layout) : Parser Layout := do
  let arrow ← take
  let safe := if arrow.key == "?->" then "nullsafe_" else ""
  let member ← memberName r
  let head := object.inField "object" :: arrow.mark :: member
  if ← atSign "(" then
    return branch (safe ++ "member_call_expression") (head ++ [(← arguments r).inField "arguments"])
  else return branch (safe ++ "member_access_expression") head

/-- A member after two colons. -/
def scopeSuffix (r : Rules) (scope : Layout) : Parser Layout := do
  let colons ← sign "::"
  let isVariable ← atSign "$"
  let inBraces ← atSign "\x7b"
  let member ← memberName r
  if ← atSign "(" then
    return branch "scoped_call_expression"
      (scope.inField "scope" :: colons :: member ++ [(← arguments r).inField "arguments"])
  else if isVariable then
    return branch "scoped_property_access_expression" (scope.inField "scope" :: colons :: member)
  else
    let bare := member.map fun
      | .node k s t n m f _ cs => Layout.node k s t n m f none cs
    if inBraces then
      let wrapped := bare.map fun l =>
        if l.kind == "\x7b" || l.kind == "\x7d" then l else branch "name" [l]
      return branch "class_constant_access_expression" (scope :: colons :: wrapped)
    else return branch "class_constant_access_expression" (scope :: colons :: bare)

/-- A subscript. -/
def subscriptSuffix (r : Rules) (base : Layout) : Parser Layout := do
  let o ← sign "["
  if ← atSign "]" then return branch "subscript_expression" [base, o, ← sign "]"]
  let e ← r.expression 0
  return branch "subscript_expression" [base, o, e, ← sign "]"]

/-- Everything that follows an operand and belongs to it. -/
def suffixes (r : Rules) : Nat → Layout → Parser Layout
  | 0, _ => fail
  | n + 1, base => do
    let t := (← next?).getD default
    if t.isSign "[" then suffixes r n (← subscriptSuffix r base)
    else if t.isSign "->" || t.isSign "?->" then suffixes r n (← memberSuffix r base)
    else if t.isSign "::" then suffixes r n (← scopeSuffix r base)
    else if t.isSign "(" then
      let args ← arguments r
      suffixes r n (branch "function_call_expression" [base.inField "function", args.inField "arguments"])
    else if t.isSign "++" || t.isSign "--" then return branch "update_expression" [base, (← take).mark]
    else return base

/-- The assignment to a left side, if one follows. -/
def assigned (r : Rules) (left : Layout) : Parser Layout := do
  let t := (← next?).getD default
  if !isAssignable left || t.kind != .sign then return left
  if t.key == "=" then
    let s ← sign "="
    if ← atSign "&" then
      let amp ← sign "&"
      let right ← r.expression 4
      return branch "reference_assignment_expression" [left.inField "left", s, amp, right.inField "right"]
    else
      let right ← r.expression 4
      return branch "assignment_expression" [left.inField "left", s, right.inField "right"]
  else if updateSigns.contains t.key then
    let s ← take
    let right ← r.expression 4
    return branch "augmented_assignment_expression"
      [left.inField "left", s.mark.inField "operator", right.inField "right"]
  else return left

/-- One place of a destructuring: nothing, a target, or a key and a target. -/
def destructuringItem (r : Rules) : Parser (List Layout) := do
  let target : Parser Layout := do
    if (← atSign "[") || ((← atWord "list") && (← thenSign "(")) then r.destructuring
    else if ← atSign "&" then byReference r
    else r.expression 0
  if ← atSign "," then return []
  let first ← target
  if ← atSign "=>" then
    let s ← sign "=>"
    return [first, s, ← target]
  else return [first]

/-- The left side of an assignment that takes an array apart. -/
def destructuringWith (r : Rules) : Parser Layout := do
  if ← atWord "list" then
    let k ← word "list"
    let o ← sign "("
    return branch "list_literal" (k :: o :: (← listUpTo ")" (destructuringItem r) r.limit))
  else
    let o ← sign "["
    return branch "list_literal" (o :: (← listUpTo "]" (destructuringItem r) r.limit))

/-- One element of an array. -/
def arrayElement (r : Rules) : Parser (List Layout) := do
  let value : Parser Layout := do if ← atSign "&" then byReference r else r.expression 0
  if ← atSign "..." then return [branch "array_element_initializer" [← spread r]]
  let first ← value
  if ← atSign "=>" then
    let s ← sign "=>"
    return [branch "array_element_initializer" [first, s, ← value]]
  else return [branch "array_element_initializer" [first]]

/-- An array. -/
def array (r : Rules) : Parser Layout := do
  let k ← word? "array"
  if k.isEmpty then
    let o ← sign "["
    return branch "array_creation_expression" (o :: (← listUpTo "]" (arrayElement r) r.limit))
  else
    let o ← sign "("
    return branch "array_creation_expression" (k ++ o :: (← listUpTo ")" (arrayElement r) r.limit))

/-- An expression in brackets. -/
def bracketed (r : Rules) : Parser Layout := do
  let o ← sign "("
  let e ← r.expression 0
  return branch "parenthesized_expression" [o, e, ← sign ")"]

/-- What follows a variable in a text. -/
def textSuffix (target : Layout) : Parser Layout := do
  if ← atSign "->" then
    let arrow ← sign "->"
    let n ← name
    return branch "member_access_expression" [target.inField "object", arrow, n.inField "name"]
  else if ← atSign "[" then
    let o ← sign "["
    let minus ← sign? "-"
    let index ← if ← atSign "$" then
        let mark ← sign "$"
        pure (branch "variable_name" [mark, ← name])
      else
        let t ← take
        pure (t.leaf (if t.kind == .word then "name" else "integer"))
    return branch "subscript_expression" ([target, o] ++ minus ++ [index, ← sign "]"])
  else return target

/-- One part of a text: plain characters or code. -/
def textPart (r : Rules) : Parser (List Layout) := do
  let t ← take
  if t.kind == .piece then return [t.leaf "string_content"]
  else if t.isSign "\x7b" then
    let e ← r.expression 0
    return [t.mark, e, ← sign "\x7d"]
  else if t.isSign "$" then
    if ← atSign "\x7b" then
      let o ← sign "\x7b"
      let e ← r.expression 0
      return [branch "dynamic_variable_name" [t.mark, o, e, ← sign "\x7d"]]
    else
      let n ← name
      return [← textSuffix (branch "variable_name" [t.mark, n])]
  else fail

/-- A text with code in it. -/
def openText (r : Rules) (kind : String) : Parser Layout := do
  let o ← take
  let atEnd : Parser Bool := do return ((← next?).map (·.kind == .closing)).getD false
  let parts ← untilHolds atEnd (textPart r) r.limit
  let c ← take
  if kind == "heredoc" && !parts.isEmpty then
    return branch kind [o.mark, branch "heredoc_body" parts, c.mark]
  else return branch kind (o.mark :: parts ++ [c.mark])

/-- The members and subscripts that may follow a variable in the place of a class. -/
def classVariableRest (r : Rules) : Nat → Layout → Parser Layout
  | 0, _ => fail
  | n + 1, base => do
    let t := (← next?).getD default
    if t.isSign "[" then classVariableRest r n (← subscriptSuffix r base)
    else if t.isSign "->" || t.isSign "?->" then
      let arrow ← take
      let safe := if arrow.key == "?->" then "nullsafe_" else ""
      let member ← memberName r
      classVariableRest r n
        (branch (safe ++ "member_access_expression") (base.inField "object" :: arrow.mark :: member))
    else if t.isSign "::" then
      let colons ← sign "::"
      let v ← variableName r r.limit
      classVariableRest r n
        (branch "scoped_property_access_expression" [base.inField "scope", colons, v.inField "name"])
    else return base

/-- What stands for a class: a name, a variable or an expression in brackets. -/
def classReference (r : Rules) : Parser Layout := do
  if ← atSign "(" then bracketed r
  else if ← atSign "$" then classVariableRest r r.limit (← variableName r r.limit)
  else
    let n ← anyName r.limit
    if ← atSign "::" then classVariableRest r r.limit n else return n

/-- A `new` expression. Members of the new object may follow a class body or arguments. -/
def newExpression (r : Rules) : Parser Layout := do
  let k ← word "new"
  let t := (← next?).getD default
  let isClass := t.isSign "#[" || t.isWord "class" ||
    (t.kind == .word && (modifierKind? t.key).isSome && t.key != "static" && !(← thenSign "("))
  if isClass then
    let attrs ← attributes? r
    let made := branch "object_creation_expression" [k, ← anonymousClassNode r attrs]
    assigned r (← suffixes r r.limit made)
  else
    let c ← classReference r
    if ← atSign "(" then
      let made := branch "object_creation_expression" [k, c, ← arguments r]
      assigned r (← suffixes r r.limit made)
    else return branch "object_creation_expression" [k, c]

/-- One arm of a `match` expression. -/
def matchArm (r : Rules) : Parser (List Layout) := do
  if (← atWord "default") && ((← thenSign "=>") || (← thenSign ",")) then
    let k ← word "default"
    let _ ← sign? ","
    let s ← sign "=>"
    return [branch "match_default_expression" [k, s, (← r.expression 0).inField "return_expression"]]
  else
    let cs ← someUpTo "=>" (return [← r.expression 0]) r.limit
    let conditions := (branch "match_condition_list" cs.dropLast).inField "conditional_expressions"
    let value ← r.expression 0
    return [branch "match_conditional_expression"
      (conditions :: cs.getLast?.toList ++ [value.inField "return_expression"])]

/-- A `match` expression. -/
def matchExpression (r : Rules) : Parser Layout := do
  let k ← word "match"
  let c ← bracketed r
  let o ← sign "\x7b"
  let arms ← someUpTo "\x7d" (matchArm r) r.limit
  return branch "match_expression" [k, c.inField "condition", (branch "match_block" (o :: arms)).inField "body"]

/-- Does an expression end before this token? -/
def endsExpression (t : Option Token) : Bool :=
  match t with
  | none => true
  | some t => t.kind == .endTag || (t.kind == .sign && [";", ")", "]", "\x7d", ","].contains t.key)

/-- A `yield` expression. -/
def yieldExpression (r : Rules) : Parser Layout := do
  let k ← word "yield"
  if endsExpression (← next?) then return branch "yield_expression" [k]
  if ← atWord "from" then
    let f ← word "from"
    return branch "yield_expression" [k, f, ← r.expression 0]
  return branch "yield_expression" (k :: (← arrayElement r))

/-- A keyword with the expression after it. -/
def keywordExpression (r : Rules) (kind : String) : Parser Layout := do
  let k ← take
  return branch kind [k.mark, ← r.expression 0]

/-- Words that take an expression, with the node they make. -/
def keywordKinds : List (String × String) := [
  ("print", "print_intrinsic"), ("throw", "throw_expression"), ("include", "include_expression"),
  ("include_once", "include_once_expression"), ("require", "require_expression"),
  ("require_once", "require_once_expression")]

/-- An operand that starts with a word. -/
def wordOperand (r : Rules) (t : Token) : Parser Layout := do
  match keywordKinds.lookup t.key with
  | some kind => keywordExpression r kind
  | none =>
    match t.key with
    | "new" => newExpression r
    | "clone" =>
      let k ← word "clone"
      return branch "clone_expression" [k, ← r.expression 22]
    | "yield" => yieldExpression r
    | "match" => matchExpression r
    | "fn" | "function" => closure r []
    | "array" => suffixes r r.limit (← array r)
    | "list" => assigned r (← r.destructuring)
    | "true" | "false" => if ← continues then plain else return (← take).leaf "boolean"
    | "null" => if ← continues then plain else return (← take).leaf "null"
    | "static" =>
      if (← thenWord "function") || (← thenWord "fn") then closure r []
      else if ← thenSign "::" then relative
      else plain
    | "self" | "parent" => if ← thenSign "::" then relative else plain
    | _ => plain
where
  /-- Does the word go on as a longer name or a call? -/
  continues : Parser Bool := do return (← thenSign "\\") || (← thenSign "(") || (← thenSign "::")
  /-- A name and what follows it. -/
  plain : Parser Layout := do assigned r (← suffixes r r.limit (← anyName r.limit))
  /-- The class at hand and what follows it. -/
  relative : Parser Layout := do
    let s := (← take).leaf "relative_scope"
    assigned r (← suffixes r r.limit s)

/-- A cast, or an expression in brackets. -/
def bracketOperand (r : Rules) : Parser Layout := do
  let ts ← get
  let isCast : Bool := match ts with
    | _ :: w :: c :: _ => w.kind == .word && castTypes.contains w.key && c.isSign ")"
    | _ => false
  if isCast then
    let o ← sign "("
    let type := (← take).leaf "cast_type"
    let c ← sign ")"
    let value ← r.expression 19
    return branch "cast_expression" [o, type.inField "type", c, value.inField "value"]
  else suffixes r r.limit (← bracketed r)

/-- An operand with what belongs to it. -/
def operand (r : Rules) : Parser Layout := do
  let t ← (do
    match ← next? with
    | some t => pure t
    | none => fail)
  match t.kind with
  | .word => wordOperand r t
  | .integer => return (← take).leaf "integer"
  | .float => return (← take).leaf "float"
  | .text => suffixes r r.limit ((← take).leaf "string")
  | .rawBlock => return (← take).leaf "nowdoc"
  | .opening kind => suffixes r r.limit (← openText r kind)
  | .sign =>
    match t.key with
    | "$" => assigned r (← suffixes r r.limit (← variableName r r.limit))
    | "\\" => assigned r (← suffixes r r.limit (← anyName r.limit))
    | "[" => if ← bracketAssigned then assigned r (← r.destructuring) else assigned r (← suffixes r r.limit (← array r))
    | "(" => assigned r (← bracketOperand r)
    | "!" | "+" | "-" | "~" =>
      let s ← take
      return branch "unary_op_expression" [s.mark, (← r.expression 19).inField "argument"]
    | "@" =>
      let s ← take
      return branch "error_suppression_expression" [s.mark, ← r.expression 21]
    | "++" | "--" =>
      let s ← take
      return branch "update_expression" [s.mark, ← r.expression 22]
    | "#[" => closure r (← attributes? r)
    | _ => fail
  | _ => fail

/-- The operators after an operand that bind at least with the given strength. -/
def operators (r : Rules) (least : Nat) : Nat → Layout → Parser Layout
  | 0, _ => fail
  | n + 1, left => do
    let t := (← next?).getD default
    if t.isSign "?" then
      if least ≤ 5 then
        let q ← sign "?"
        let body ← if ← atSign ":" then pure [] else pure [(← r.expression 0).inField "body"]
        let c ← sign ":"
        let other ← r.expression 6
        operators r least n (branch "conditional_expression"
          (left.inField "condition" :: q :: body ++ [c, other.inField "alternative"]))
      else return left
    else if t.isWord "instanceof" then
      if least ≤ 20 then
        let s ← take
        let right ← classReference r
        operators r least n (branch "binary_expression"
          [left.inField "left", s.mark.inField "operator", right.inField "right"])
      else return left
    else
      match strength? t with
      | some (p, right) =>
        if least ≤ p then
          let s ← take
          let other ← r.expression (if right then p else p + 1)
          operators r least n (branch "binary_expression"
            [left.inField "left", s.mark.inField "operator", other.inField "right"])
        else return left
      | none => return left

/-- An expression whose operators bind at least with the given strength. -/
def expressionWith (r : Rules) (least : Nat) : Parser Layout := do operators r least r.limit (← operand r)

end DeadCode.Php
