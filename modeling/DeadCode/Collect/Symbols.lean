import DeadCode.Collect.Walk
import DeadCode.Record.Symbol
import DeadCode.Text.Classes

/-!
# Declarations of a file

The symbols that a syntax tree declares, in document order. A comment right above a declaration may say that it is to be
ignored, by every rule or by one; members of a class that is ignored by every rule are ignored with it.
-/

namespace DeadCode.Collect
set_option autoImplicit false

/-- The tag that marks a declaration as ignored. -/
def ignoreTag : List Char := "@phpjanitor-ignore".toList

/-- The rule name after a tag: blanks, a lower-case letter, then such letters and hyphens. -/
def tagRule (s : List Char) : Option String :=
  let rest := s.dropWhile fun c => c == ' ' || c == '\t'
  let isLetter := fun (c : Char) => 'a' ≤ c && c ≤ 'z'
  match rest with
  | c :: cs =>
    if rest.length < s.length && isLetter c then
      some (String.ofList (c :: cs.takeWhile fun c => isLetter c || c == '-'))
    else none
  | [] => none

/-- The first tag in a comment: nothing, or the rule it names, if it names one. -/
def findTag : List Char → Option (Option String)
  | [] => none
  | c :: cs =>
    match Text.dropPrefix? ignoreTag (c :: cs) with
    | some rest => some (tagRule rest)
    | none => findTag cs

/-- Whether a declaration is ignored, and the one rule that ignores it, if it is one. -/
structure Ignore where
  ignored : Bool := false
  rule : Option String := none
  deriving DecidableEq, Inhabited, Repr

/-- The tag of the comments right before a node, the nearest first. -/
def ignoreAbove (earlier : List Node) : Ignore :=
  let comments := (earlier.filter (·.info.named)).takeWhile (·.kind == "comment")
  match comments.findSome? fun c => findTag c.text.toList with
  | some rule => ⟨true, rule⟩
  | none => {}

/-- The lower-case text of the last modifier of a kind. -/
def modifier? (n : Node) (kind : String) : Option String :=
  ((n.children.filter (·.kind == kind)).getLast?).map fun m => Text.lower m.text

/-- Does the node have a modifier of the kind? -/
def hasModifier (n : Node) (kind : String) : Bool := n.children.any (·.kind == kind)

/-- The visibility that the modifiers give, public where they give none. -/
def visibilityOf (n : Node) : String := (modifier? n "visibility_modifier").getD "public"

/-- The value of a quoted text without interpolation. -/
def literalText? (n : Node) : Option String :=
  if (n.kind == "string" || n.kind == "encapsed_string") &&
      n.namedChildren.all fun c =>
        c.kind == "string_content" || c.kind == "string_value" || c.kind == "escape_sequence" then
    match n.text.toList with
    | q :: c :: cs =>
      if (q == '\'' || q == '"') && (c :: cs).getLast? == some q then some (String.ofList (c :: cs).dropLast) else none
    | _ => none
  else none

/-- The value of the first argument of a call. -/
def firstArgument? (call : Node) : Option Node :=
  match (call.child? "arguments").bind (·.namedChildren.head?) with
  | some arg => if arg.kind == "argument" then arg.namedChildren.getLast? else some arg
  | none => none

/-- The kind of a class-like declaration. -/
def classKind (n : Node) : SymbolKind :=
  if n.kind == "interface_declaration" then .interfaceType
  else if n.kind == "trait_declaration" then .traitType
  else if n.kind == "enum_declaration" then .enumType
  else .classType

/-- The names of the traits that a class body uses. -/
def traitNames (n : Node) : List String :=
  match n.child? "body" with
  | some body => (body.namedChildren.filter (·.kind == "use_declaration")).flatMap fun u => u.nameChildren.map Node.text
  | none => []

/-- The symbol of a class-like declaration. -/
def classSymbol (file : String) (v : Visit) : Symbol :=
  let n := v.node
  let i := ignoreAbove v.earlier
  { kind := classKind n, name := n.childText "name", space := v.scope.space, file
    startLine := n.line, endLine := n.endLine
    isAbstract := hasModifier n "abstract_modifier", isFinal := hasModifier n "final_modifier"
    parents := n.baseNames.map v.scope.resolveClass
    interfaces := n.interfaceNames.map v.scope.resolveClass
    traits := (traitNames n).map v.scope.resolveClass
    ignored := i.ignored, ignoredRule := i.rule }

/-- The symbol of a function. -/
def functionSymbol (file : String) (v : Visit) : Symbol :=
  let i := ignoreAbove v.earlier
  { kind := .function, name := v.node.childText "name", space := v.scope.space, file
    startLine := v.node.line, endLine := v.node.endLine, ignored := i.ignored, ignoredRule := i.rule }

/-- Whether the classes seen so far are ignored, by full name. -/
abbrev ClassIgnores := List (String × Ignore)

/-- Whether a member is ignored: by its own comment, or with its whole class. -/
def memberIgnore (ignores : ClassIgnores) (v : Visit) : Ignore :=
  let own := ignoreAbove v.earlier
  if own.ignored then own else
  match v.scope.currentClass.bind (Assoc.get? ignores) with
  | some ⟨true, none⟩ => ⟨true, none⟩
  | _ => {}

/-- The symbol of a method. -/
def methodSymbol (file : String) (ignores : ClassIgnores) (v : Visit) : Symbol :=
  let n := v.node
  let i := memberIgnore ignores v
  { kind := .method, name := n.childText "name", space := v.scope.space, file
    startLine := n.line, endLine := n.endLine, visibility := some (visibilityOf n)
    isStatic := hasModifier n "static_modifier"
    isAbstract := hasModifier n "abstract_modifier" || (v.grandparent?.map Node.kind) == some "interface_declaration"
    isFinal := hasModifier n "final_modifier", owner := v.scope.currentClass
    ignored := i.ignored, ignoredRule := i.rule }

/-- The variable that a property element declares. -/
def elementVariable? (e : Node) : Option Node :=
  (e.child? "name").or (e.namedChildren.find? (·.kind == "variable_name"))

/-- The symbols of a property declaration. -/
def propertySymbols (file : String) (ignores : ClassIgnores) (v : Visit) : List Symbol :=
  let n := v.node
  let i := memberIgnore ignores v
  (n.namedChildren.filter (·.kind == "property_element")).filterMap fun e =>
    (elementVariable? e).map fun target =>
      { kind := .property, name := Text.trimStart (· == '$') target.text, space := v.scope.space, file
        startLine := e.line, endLine := e.endLine, visibility := some (visibilityOf n)
        isStatic := hasModifier n "static_modifier", owner := v.scope.currentClass
        ignored := i.ignored, ignoredRule := i.rule }

/-- The symbol of a property declared by a constructor parameter. -/
def promotedSymbol (file : String) (ignores : ClassIgnores) (v : Visit) : Symbol :=
  let n := v.node
  let i := memberIgnore ignores v
  { kind := .property, name := Text.trimStart (fun c => c == '&' || c == '$') (n.childText "name")
    space := v.scope.space, file
    startLine := n.line, endLine := n.endLine, visibility := some (visibilityOf n), owner := v.scope.currentClass
    ignored := i.ignored, ignoredRule := i.rule, metadata := [("promoted", .bool true)] }

/-- The symbols of a constant declaration, inside a class or outside. -/
def constantSymbols (file : String) (ignores : ClassIgnores) (v : Visit) : List Symbol :=
  let n := v.node
  let inClass := v.scope.currentClass.isSome
  let i := if inClass then memberIgnore ignores v else ignoreAbove v.earlier
  (n.namedChildren.filter (·.kind == "const_element")).filterMap fun e =>
    (e.namedChildren.find? (·.kind == "name")).map fun name =>
      { kind := if inClass then .classConstant else .globalConstant, name := name.text, space := v.scope.space, file
        startLine := e.line, endLine := e.endLine
        visibility := if inClass then some (visibilityOf n) else none
        isFinal := hasModifier n "final_modifier", owner := v.scope.currentClass
        ignored := i.ignored, ignoredRule := i.rule }

/-- The symbol of an enum case. -/
def enumCaseSymbol? (file : String) (ignores : ClassIgnores) (v : Visit) : Option Symbol :=
  let n := v.node
  ((n.child? "name").or (n.namedChildren.find? (·.kind == "name"))).map fun name =>
    let i := memberIgnore ignores v
    { kind := .classConstant, name := name.text, space := v.scope.space, file
      startLine := n.line, endLine := n.endLine, visibility := some "public", owner := v.scope.currentClass
      ignored := i.ignored, ignoredRule := i.rule, metadata := [("enum_case", .bool true)] }

/-- Is the node a call of `define`? -/
def isDefine (n : Node) : Bool :=
  match n.child? "function" with
  | some f => Text.lower (Name.unrooted (Name.clean f.text)) == "define"
  | none => false

/-- The global constant that a call of `define` declares; its name is a full name. -/
def definedSymbol? (file : String) (v : Visit) : Option Symbol :=
  let n := v.node
  if isDefine n then
    match (firstArgument? n).bind literalText? with
    | none => none
    | some value =>
      if value.isEmpty then none else
      let name := (Name.unrooted value).toList
      let earlier := match v.around with
        | p :: _ => if p.node.kind == "expression_statement" then p.earlier else v.earlier
        | [] => v.earlier
      let i := ignoreAbove earlier
      some { kind := .globalConstant, name := String.ofList (Text.afterLast '\\' name)
             space := String.ofList ((Text.beforeLast? '\\' name).getD []), file
             startLine := n.line, endLine := n.endLine, ignored := i.ignored, ignoredRule := i.rule
             metadata := [("defined_with", .str "define")] }
  else none

/-- What one node declares. Members of a class without a name cannot be named, so they are left out. -/
def symbolsAt (file : String) (ignores : ClassIgnores) (v : Visit) : List Symbol :=
  let n := v.node
  let inClass := (Scope.present v.scope.currentClass).isSome
  if n.isClassLike then [classSymbol file v]
  else if n.kind == "function_definition" then [functionSymbol file v]
  else if v.scope.currentClass == some anonymousClass then []
  else if n.kind == "method_declaration" && inClass then [methodSymbol file ignores v]
  else if n.kind == "property_declaration" && inClass then propertySymbols file ignores v
  else if n.kind == "property_promotion_parameter" && inClass then [promotedSymbol file ignores v]
  else if n.kind == "const_declaration" then constantSymbols file ignores v
  else if n.kind == "enum_case" && inClass then (enumCaseSymbol? file ignores v).toList
  else if n.kind == "function_call_expression" then (definedSymbol? file v).toList
  else []

/-- The classes that are ignored after one more node. -/
def ignoresAfter (file : String) (ignores : ClassIgnores) (v : Visit) : ClassIgnores :=
  if v.node.isClassLike then
    let s := classSymbol file v
    Assoc.set ignores s.fqn ⟨s.ignored, s.ignoredRule⟩
  else ignores

/-- The declarations found so far, in reverse, and which of their classes are ignored. -/
structure Declared where
  symbols : List Symbol := []
  ignores : ClassIgnores := []

/-- One more node. -/
def Declared.step (file : String) (d : Declared) (v : Visit) : Declared :=
  { symbols := (symbolsAt file d.ignores v).reverse ++ d.symbols, ignores := ignoresAfter file d.ignores v }

/-- The symbols that a tree declares. -/
def symbols (file : String) (root : Node) : List Symbol :=
  ((visits file root).foldl (Declared.step file) {}).symbols.reverse

end DeadCode.Collect
