import DeadCode.Php.Expressions

/-!
# Statements

Statements of PHP, with the forms that end in a keyword of their own.
-/

namespace DeadCode.Php
set_option autoImplicit false

open Php.Parser Layout

/-- Expressions with commas between them. -/
def sequence (r : Rules) : Nat → Parser Layout
  | 0 => fail
  | n + 1 => do
    let first ← r.expression 0
    if ← atSign "," then
      let c ← sign ","
      return branch "sequence_expression" [first, c, ← sequence r n]
    else return first

/-- Is one of the words next, ends of code passed over? -/
def atAnyWord (ws : List String) : Parser Bool := do
  skipEndTags
  return ((← next?).map fun t => t.kind == .word && ws.contains t.key).getD false

/-- Statements up to one of the words. -/
def statementsUpTo (r : Rules) (ws : List String) : Parser (List Layout) :=
  untilHolds (atAnyWord ws) (return [← r.statement]) r.limit

/-- A colon and the statements up to one of the words. -/
def colonBlock (r : Rules) (ws : List String) : Parser Layout := do
  let c ← sign ":"
  return (branch "colon_block" (c :: (← statementsUpTo r ws))).inField "body"

/-- The body of a loop: a statement, or statements up to a closing word. -/
def loopBody (r : Rules) (closing : String) : Parser (List Layout) := do
  if ← atSign ":" then
    let b ← colonBlock r [closing]
    let k ← word closing
    return [b, k, ← semicolon]
  else return [(← r.statement).inField "body"]

/-- The further branches of an `if` statement with colons. -/
def colonBranches (r : Rules) : Nat → Parser (List Layout)
  | 0 => fail
  | n + 1 => do
    if ← atAnyWord ["elseif"] then
      let k ← word "elseif"
      let c ← bracketed r
      let b ← colonBlock r ["elseif", "else", "endif"]
      let clause := (branch "else_if_clause" [k, c.inField "condition", b]).inField "alternative"
      return clause :: (← colonBranches r n)
    else if ← atAnyWord ["else"] then
      let k ← word "else"
      let b ← colonBlock r ["endif"]
      return (branch "else_clause" [k, b]).inField "alternative" :: (← colonBranches r n)
    else
      let k ← word "endif"
      return [k, ← semicolon]

/-- The further branches of an `if` statement. -/
def branches (r : Rules) : Nat → Parser (List Layout)
  | 0 => fail
  | n + 1 => do
    let before ← get
    if ← atAnyWord ["elseif"] then
      let k ← word "elseif"
      let c ← bracketed r
      let b ← r.statement
      let clause := branch "else_if_clause" [k, c.inField "condition", b.inField "body"]
      return clause.inField "alternative" :: (← branches r n)
    else if ← atAnyWord ["else"] then
      let k ← word "else"
      let b ← r.statement
      return [(branch "else_clause" [k, b.inField "body"]).inField "alternative"]
    else
      set before
      return []

/-- An `if` statement. -/
def ifStatement (r : Rules) : Parser Layout := do
  let k ← word "if"
  let c ← bracketed r
  let head := [k, c.inField "condition"]
  if ← atSign ":" then
    let b ← colonBlock r ["elseif", "else", "endif"]
    return branch "if_statement" (head ++ b :: (← colonBranches r r.limit))
  else
    let b ← r.statement
    return branch "if_statement" (head ++ b.inField "body" :: (← branches r r.limit))

/-- The statements of one case. -/
def caseBody (r : Rules) : Parser (List Layout) := do
  let atEnd : Parser Bool := do return (← atAnyWord ["case", "default", "endswitch"]) || (← atSign "\x7d")
  untilHolds atEnd (return [← r.statement]) r.limit

/-- One case of a `switch` statement. -/
def switchCase (r : Rules) : Parser (List Layout) := do
  let separator : Parser Layout := do if ← atSign ";" then sign ";" else sign ":"
  if ← atAnyWord ["default"] then
    let k ← word "default"
    let s ← separator
    return [branch "default_statement" (k :: s :: (← caseBody r))]
  else
    let k ← word "case"
    let v ← r.expression 0
    let s ← separator
    return [branch "case_statement" (k :: v.inField "value" :: s :: (← caseBody r))]

/-- A `switch` statement. -/
def switchStatement (r : Rules) : Parser Layout := do
  let k ← word "switch"
  let c ← bracketed r
  let body ← if ← atSign ":" then
      let o ← sign ":"
      let cs ← untilHolds (atAnyWord ["endswitch"]) (switchCase r) r.limit
      let e ← word "endswitch"
      pure (o :: cs ++ [e, ← semicolon])
    else
      let o ← sign "\x7b"
      let atEnd : Parser Bool := do
        skipEndTags
        atSign "\x7d"
      let cs ← untilHolds atEnd (switchCase r) r.limit
      pure (o :: cs ++ [← sign "\x7d"])
  return branch "switch_statement" [k, c.inField "condition", (branch "switch_block" body).inField "body"]

/-- A `do` statement. -/
def doStatement (r : Rules) : Parser Layout := do
  let k ← word "do"
  let b ← r.statement
  skipEndTags
  let w ← word "while"
  let c ← bracketed r
  return branch "do_statement" [k, b.inField "body", w, c.inField "condition", ← semicolon]

/-- A part of the head of a `for` statement, up to a sign. -/
def forPart (r : Rules) (field close : String) : Parser (List Layout) := do
  if ← atSign close then return [← sign close]
  let e ← sequence r r.limit
  return [e.inField field, ← sign close]

/-- A `for` statement. -/
def forStatement (r : Rules) : Parser Layout := do
  let k ← word "for"
  let o ← sign "("
  let first ← forPart r "initialize" ";"
  let test ← forPart r "condition" ";"
  let step ← forPart r "update" ")"
  let body ← if ← atSign ":" then
      let c ← sign ":"
      let ss ← statementsUpTo r ["endfor"]
      let e ← word "endfor"
      pure (c :: ss ++ [e, ← semicolon])
    else pure [(← r.statement).inField "body"]
  return branch "for_statement" ([k, o] ++ first ++ test ++ step ++ body)

/-- A target of a `foreach` statement. -/
def foreachTarget (r : Rules) : Parser Layout := do
  if ← atSign "&" then byReference r
  else if (← atSign "[") || ((← atWord "list") && (← thenSign "(")) then r.destructuring
  else r.expression 0

/-- A `foreach` statement. -/
def foreachStatement (r : Rules) : Parser Layout := do
  let k ← word "foreach"
  let o ← sign "("
  let e ← r.expression 0
  let a ← word "as"
  let first ← foreachTarget r
  let target ← if ← atSign "=>" then
      let s ← sign "=>"
      pure (branch "pair" [first, s, ← foreachTarget r])
    else pure first
  let c ← sign ")"
  return branch "foreach_statement" ([k, o, e, a, target, c] ++ (← loopBody r "endforeach"))

/-- One handler of a `try` statement. -/
def tryHandler (r : Rules) : Parser (List Layout) := do
  if ← atWord "catch" then
    let k ← word "catch"
    let o ← sign "("
    let ts ← separated "|" (return [branch "named_type" [← anyName r.limit]]) r.limit
    let target ← if ← atSign "$" then pure [(← variableName r r.limit).inField "name"] else pure []
    let c ← sign ")"
    let b ← block r
    return [branch "catch_clause"
      ([k, o, (branch "type_list" ts).inField "type"] ++ target ++ [c, b.inField "body"])]
  else
    let k ← word "finally"
    let b ← block r
    return [branch "finally_clause" [k, b.inField "body"]]

/-- A `try` statement; it has a handler at least. -/
def tryStatement (r : Rules) : Parser Layout := do
  let k ← word "try"
  let b ← block r
  let noMore : Parser Bool := do return !(← atAnyWord ["catch", "finally"])
  let before ← get
  if ← noMore then fail
  set before
  let hs ← untilHolds noMore (tryHandler r) r.limit
  return branch "try_statement" (k :: b.inField "body" :: hs)

/-- A keyword with an expression that may be left out. -/
def jump (r : Rules) (kind : String) : Parser Layout := do
  let k ← take
  let e ← if endsExpression (← next?) then pure [] else pure [← r.expression 0]
  return branch kind (k.mark :: e ++ [← semicolon])

/-- An `exit` statement. -/
def exitStatement (r : Rules) : Parser Layout := do
  let k ← word "exit"
  let args ← if ← atSign "(" then
      let o ← sign "("
      let e ← if ← atSign ")" then pure [] else pure [← r.expression 0]
      pure (o :: e ++ [← sign ")"])
    else pure []
  return branch "exit_statement" (k :: args ++ [← semicolon])

/-- A `declare` statement. -/
def declareStatement (r : Rules) : Parser Layout := do
  let k ← word "declare"
  let o ← sign "("
  let directive : Parser (List Layout) := do
    let n ← take
    if n.kind != .word || !(["ticks", "encoding", "strict_types"] : List String).contains n.key then fail
    let s ← sign "="
    return [branch "declare_directive" [n.mark, s, ← r.expression 0]]
  let ds ← separated "," directive r.limit
  let c ← sign ")"
  let body ← if ← atSign ":" then
      let s ← sign ":"
      let ss ← statementsUpTo r ["enddeclare"]
      let e ← word "enddeclare"
      pure (s :: ss ++ [e, ← semicolon])
    else if endsExpression (← next?) then pure [← semicolon]
    else pure [← r.statement]
  return branch "declare_statement" (k :: o :: ds ++ c :: body)

/-- A keyword, things with commas between them, and the end of the statement. -/
def keywordList (r : Rules) (kind : String) (item : Parser (List Layout)) : Parser Layout := do
  let k ← take
  let es ← separated "," item r.limit
  return branch kind (k.mark :: es ++ [← semicolon])

/-- An `unset` statement. -/
def unsetStatement (r : Rules) : Parser Layout := do
  let k ← word "unset"
  let o ← sign "("
  let es ← someUpTo ")" (return [← r.expression 0]) r.limit
  return branch "unset_statement" (k :: o :: es ++ [← semicolon])

/-- A variable of a function that keeps its value. -/
def staticVariable (r : Rules) : Parser (List Layout) := do
  let v ← variableName r r.limit
  return [branch "static_variable_declaration" (v.inField "name" :: (← defaultValue? r "value"))]

/-- A namespace statement. -/
def namespaceDefinition (r : Rules) : Parser Layout := do
  let k ← word "namespace"
  let n ← if ← atSign "\x7b" then pure [] else pure [(← namespaceName r.limit).inField "name"]
  if ← atSign "\x7b" then return branch "namespace_definition" (k :: n ++ [(← block r).inField "body"])
  else return branch "namespace_definition" (k :: n ++ [← semicolon])

/-- The keyword that says what an import brings in. -/
def importKeyword? : Parser (List Layout) := do
  let t := (← next?).getD default
  if t.isWord "function" || t.isWord "const" then return [(← take).mark.inField "type"] else return []

/-- The alias of an import, if it has one. -/
def importAlias? : Parser (List Layout) := do
  if ← atWord "as" then
    let k ← word "as"
    return [k, (← name).inField "alias"]
  else return []

/-- One imported name. -/
def importClause (limit : Nat) : Parser (List Layout) := do
  let k ← importKeyword?
  let n ← anyName limit
  return [branch "namespace_use_clause" (k ++ n :: (← importAlias?))]

/-- A `use` statement, plain or with a group. -/
def useDeclaration (limit : Nat) : Parser Layout := do
  let u ← word "use"
  let k ← importKeyword?
  let root ← sign? "\\"
  let first ← name
  let path := first :: (← pathRest limit)
  if ← atSign "\\" then
    let s ← sign "\\"
    let o ← sign "\x7b"
    let cs ← someUpTo "\x7d" (importClause limit) limit
    let group := (branch "namespace_use_group" (o :: cs)).inField "body"
    return branch "namespace_use_declaration" (u :: k ++ root ++ [branch "namespace_name" path, s, group, ← semicolon])
  else
    let clause := branch "namespace_use_clause" (k ++ nameNode root path :: (← importAlias?))
    let more ← if ← atSign "," then
        let c ← sign ","
        pure (c :: (← separated "," (importClause limit) limit))
      else pure []
    return branch "namespace_use_declaration" (u :: clause :: more ++ [← semicolon])

/-- An expression as a statement. -/
def expressionStatement (r : Rules) : Parser Layout := do
  let e ← r.expression 0
  return branch "expression_statement" [e, ← semicolon]

/-- Does a function with a name start here? -/
def atFunction : Parser Bool := fun ts =>
  some (match ts with
    | f :: n :: m :: _ => f.isWord "function" && (n.kind == .word || (n.isSign "&" && m.kind == .word))
    | _ => false, ts)

/-- A function with a name, after its attributes. -/
def functionDefinition (r : Rules) (attrs : List Layout) : Parser Layout := do
  let head ← functionHead r
  return branch "function_definition" (attrs ++ head ++ [(← block r).inField "body"])

/-- A declaration that may have attributes, if one starts here. -/
def declaration? (r : Rules) (attrs : List Layout) : Parser (Option Layout) := do
  let t := (← next?).getD default
  if t.kind != .word then return none
  if t.isWord "abstract" || t.isWord "final" || t.isWord "readonly" || t.isWord "class" then
    return some (← classDeclaration r attrs)
  else if t.isWord "interface" then return some (← interfaceDeclaration r attrs)
  else if t.isWord "trait" then return some (← traitDeclaration r attrs)
  else if t.isWord "enum" && (← thenAnyWord) then return some (← enumDeclaration r attrs)
  else if ← atFunction then return some (← functionDefinition r attrs)
  else return none

/-- A statement that starts with a word. -/
def wordStatement (r : Rules) (t : Token) : Parser Layout := do
  match t.key with
  | "if" => ifStatement r
  | "switch" => switchStatement r
  | "while" =>
    let k ← word "while"
    let c ← bracketed r
    return branch "while_statement" (k :: c.inField "condition" :: (← loopBody r "endwhile"))
  | "do" => doStatement r
  | "for" => forStatement r
  | "foreach" => foreachStatement r
  | "goto" =>
    let k ← word "goto"
    let n ← name
    return branch "goto_statement" [k, n, ← semicolon]
  | "continue" => jump r "continue_statement"
  | "break" => jump r "break_statement"
  | "return" => jump r "return_statement"
  | "try" => tryStatement r
  | "declare" => declareStatement r
  | "echo" => keywordStatement "echo_statement"
  | "exit" => exitStatement r
  | "unset" => unsetStatement r
  | "const" =>
    let k ← word "const"
    return branch "const_declaration" (k :: (← constantElements r))
  | "namespace" => if ← thenSign "\\" then expressionStatement r else namespaceDefinition r
  | "use" => useDeclaration r.limit
  | "global" => keywordList r "global_declaration" (return [← variableName r r.limit])
  | "static" =>
    if ← thenSign "$" then keywordList r "function_static_declaration" (staticVariable r) else expressionStatement r
  | _ =>
    match ← declaration? r [] with
    | some d => return d
    | none =>
      if ← thenSign ":" then
        let n ← name
        return branch "named_label_statement" [n, ← sign ":"]
      else expressionStatement r
where
  /-- A keyword and a sequence of expressions. -/
  keywordStatement (kind : String) : Parser Layout := do
    let k ← take
    let e ← sequence r r.limit
    return branch kind [k.mark, e, ← semicolon]

/-- A statement. -/
def statementWith (r : Rules) : Parser Layout := do
  skipEndTags
  let t := (← next?).getD default
  if t.kind == .word then wordStatement r t
  else if t.isSign "\x7b" then block r
  else if t.isSign ";" then return branch "empty_statement" [← sign ";"]
  else if t.isSign "#[" then
    let before ← get
    let attrs ← attributes? r
    match ← declaration? r attrs with
    | some d => return d
    | none =>
      set before
      expressionStatement r
  else expressionStatement r

end DeadCode.Php
