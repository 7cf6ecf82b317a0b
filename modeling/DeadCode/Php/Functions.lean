import DeadCode.Php.Names

/-!
# Functions

Arguments of calls, attributes, parameters, and functions with and without a name.
-/

namespace DeadCode.Php
set_option autoImplicit false

open Php.Parser Layout

/-- A block of statements. -/
def block (r : Rules) : Parser Layout := do
  let o ← sign "\x7b"
  let atEnd : Parser Bool := do
    skipEndTags
    atSign "\x7d"
  let body ← untilHolds atEnd (return [← r.statement]) r.limit
  return branch "compound_statement" (o :: body ++ [← sign "\x7d"])

/-- A spread value. -/
def spread (r : Rules) : Parser Layout := do
  let s ← sign "..."
  return branch "variadic_unpacking" [s, ← r.expression 0]

/-- One argument, with its label if it has one. -/
def argument (r : Rules) : Parser (List Layout) := do
  let labelled := (((← next?).map (·.kind == .word)).getD false) && (← thenSign ":")
  let label ← if labelled then
      let l ← name
      pure [l.inField "name", ← sign ":"]
    else pure []
  let value ← if ← atSign "..." then spread r else r.expression 0
  return [branch "argument" (label ++ [value])]

/-- The arguments of a call. -/
def arguments (r : Rules) : Parser Layout := do
  let o ← sign "("
  if (← atSign "...") && (← thenSign ")") then
    let dots := (← take).leaf "variadic_placeholder"
    return branch "arguments" [o, dots, ← sign ")"]
  else return branch "arguments" (o :: (← listUpTo ")" (argument r) r.limit))

/-- One attribute. -/
def attributeNode (r : Rules) : Parser (List Layout) := do
  let n ← anyName r.limit
  let args ← if ← atSign "(" then pure [(← arguments r).inField "parameters"] else pure []
  return [branch "attribute" (n :: args)]

/-- A group of attributes. -/
def attributeGroup (r : Rules) : Parser (List Layout) := do
  let o ← sign "#["
  return [branch "attribute_group" (o :: (← someUpTo "]" (attributeNode r) r.limit))]

/-- The attributes before a declaration, if there are any. -/
def attributes? (r : Rules) : Parser (List Layout) := do
  let noMore : Parser Bool := do return !(← atSign "#[")
  let groups ← untilHolds noMore (attributeGroup r) r.limit
  if groups.isEmpty then return [] else return [(branch "attribute_list" groups).inField "attributes"]

/-- The node kind of a modifier. -/
def modifierKind? (key : String) : Option String :=
  match key with
  | "public" | "protected" | "private" => some "visibility_modifier"
  | "static" => some "static_modifier"
  | "abstract" => some "abstract_modifier"
  | "final" => some "final_modifier"
  | "readonly" => some "readonly_modifier"
  | "var" => some "var_modifier"
  | _ => none

/-- A modifier; a visibility may be limited to writing. -/
def modifier : Parser Layout := do
  let t ← take
  if t.kind != .word then fail
  match modifierKind? t.key with
  | none => fail
  | some kind =>
    if kind == "visibility_modifier" && (← atSign "(") && (← thenWord "set") then
      let o ← sign "("
      let set := (← take).leaf "operation"
      return branch kind [t.mark, o, set, ← sign ")"]
    else return t.leaf kind

/-- The modifiers before a declaration. -/
def modifiers (limit : Nat) : Parser (List Layout) := do
  let noMore : Parser Bool := do
    let t := (← next?).getD default
    return !(t.kind == .word && (modifierKind? t.key).isSome)
  untilHolds noMore (return [← modifier]) limit

/-- A default value. -/
def defaultValue? (r : Rules) (field : String) : Parser (List Layout) := do
  if ← atSign "=" then
    let s ← sign "="
    return [s, (← r.expression 0).inField field]
  else return []

/-- Is the next token the name of a parameter, with the marks before it? -/
def atParameterName : Parser Bool := do return (← atSign "$") || (← atSign "&") || (← atSign "...")

/-- A type, unless the name of a parameter stands here. -/
def parameterType? (limit : Nat) : Parser (List Layout) := do
  if ← atParameterName then return [] else return [(← anyType limit).inField "type"]

/-- A parameter that declares a property. -/
def promotedParameter (r : Rules) (attrs mods : List Layout) (hooks : Parser (List Layout)) : Parser Layout := do
  let mods := mods.map fun m => m.inField (if m.kind == "readonly_modifier" then "readonly" else "visibility")
  let type ← parameterType? r.limit
  let target ← if ← atSign "&" then
      let mark ← sign "&"
      pure (branch "by_ref" [mark, ← variableName r r.limit])
    else variableName r r.limit
  let value ← defaultValue? r "default_value"
  let hooks ← if ← atSign "\x7b" then hooks else pure []
  return branch "property_promotion_parameter" (attrs ++ mods ++ type ++ [target.inField "name"] ++ value ++ hooks)

/-- A parameter. -/
def parameter (r : Rules) (hooks : Parser (List Layout)) : Parser (List Layout) := do
  let attrs ← attributes? r
  let mods ← modifiers r.limit
  if !mods.isEmpty then return [← promotedParameter r attrs mods hooks]
  let type ← parameterType? r.limit
  let reference ← if ← atSign "&" then pure [((← take).leaf "reference_modifier").inField "reference_modifier"] else pure []
  if ← atSign "..." then
    let dots ← sign "..."
    let target ← variableName r r.limit
    return [branch "variadic_parameter" (attrs ++ type ++ reference ++ [dots, target.inField "name"])]
  else
    let target ← variableName r r.limit
    let value ← defaultValue? r "default_value"
    return [branch "simple_parameter" (attrs ++ type ++ reference ++ [target.inField "name"] ++ value)]

/-- The body of a hook: an expression, a block, or nothing. -/
def hookBody (r : Rules) : Parser (List Layout) := do
  if ← atSign "=>" then
    let s ← sign "=>"
    let e ← r.expression 0
    return [s, e.inField "body", ← semicolon]
  else if ← atSign ";" then return [← semicolon]
  else return [(← block r).inField "body"]

/-- The parameters of a hook. -/
def hookParameters (r : Rules) : Parser (List Layout) := do
  if ← atSign "(" then
    let o ← sign "("
    let ps ← listUpTo ")" (parameter r fail) r.limit
    return [(branch "formal_parameters" (o :: ps)).inField "parameters"]
  else return []

/-- One hook of a property. -/
def hook (r : Rules) : Parser (List Layout) := do
  let attrs ← attributes? r
  let mods ← modifiers r.limit
  let reference ← if ← atSign "&" then pure [((← take).leaf "reference_modifier").inField "reference_modifier"] else pure []
  let n ← name
  let ps ← hookParameters r
  return [branch "property_hook" (attrs ++ mods ++ reference ++ [n] ++ ps ++ (← hookBody r))]

/-- The hooks of a property. -/
def hooks (r : Rules) : Parser (List Layout) := do
  let o ← sign "\x7b"
  let hs ← untilHolds (atSign "\x7d") (hook r) r.limit
  return [branch "property_hook_list" (o :: hs ++ [← sign "\x7d"])]

/-- The parameters of a function. -/
def parameters (r : Rules) : Parser Layout := do
  let o ← sign "("
  return (branch "formal_parameters" (o :: (← listUpTo ")" (parameter r (hooks r)) r.limit))).inField "parameters"

/-- A return type, if there is one. -/
def returnType? (limit : Nat) : Parser (List Layout) := do
  if ← atSign ":" then
    let s ← sign ":"
    return [s, (← anyType limit).inField "return_type"]
  else return []

/-- The mark of a function that returns a reference. -/
def referenceMark? : Parser (List Layout) := do
  if ← atSign "&" then return [((← take).leaf "reference_modifier").inField "reference_modifier"] else return []

/-- The head of a function with a name. -/
def functionHead (r : Rules) : Parser (List Layout) := do
  let f ← word "function"
  let reference ← referenceMark?
  let n ← name
  let ps ← parameters r
  return f :: reference ++ [n.inField "name", ps] ++ (← returnType? r.limit)

/-- A variable that a function without a name takes along. -/
def captured (r : Rules) : Parser (List Layout) := do
  if ← atSign "&" then
    let mark ← sign "&"
    return [branch "by_ref" [mark, ← variableName r r.limit]]
  else return [← variableName r r.limit]

/-- The variables that a function without a name takes along. -/
def captures? (r : Rules) : Parser (List Layout) := do
  if ← atWord "use" then
    let u ← word "use"
    let o ← sign "("
    return [branch "anonymous_function_use_clause" (u :: o :: (← someUpTo ")" (captured r) r.limit))]
  else return []

/-- A function without a name, after its attributes. -/
def closure (r : Rules) (attrs : List Layout) : Parser Layout := do
  let static ← if ← atWord "static" then pure [((← take).leaf "static_modifier").inField "static_modifier"] else pure []
  if ← atWord "fn" then
    let f ← word "fn"
    let reference ← referenceMark?
    let ps ← parameters r
    let type ← returnType? r.limit
    let arrow ← sign "=>"
    let body ← r.expression 0
    return branch "arrow_function" (attrs ++ static ++ [f] ++ reference ++ [ps] ++ type ++ [arrow, body.inField "body"])
  else
    let f ← word "function"
    let reference ← referenceMark?
    let ps ← parameters r
    let uses ← captures? r
    let type ← returnType? r.limit
    let body ← block r
    return branch "anonymous_function"
      (attrs ++ static ++ [f] ++ reference ++ [ps] ++ uses ++ type ++ [body.inField "body"])

end DeadCode.Php
