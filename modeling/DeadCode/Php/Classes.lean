import DeadCode.Php.Functions

/-!
# Classes

Classes, interfaces, traits and enums with their members.
-/

namespace DeadCode.Php
set_option autoImplicit false

open Php.Parser Layout

/-- A clause of names after a keyword. -/
def nameClause? (limit : Nat) (keyword kind : String) : Parser (List Layout) := do
  if ← atWord keyword then
    let k ← word keyword
    return [branch kind (k :: (← separated "," (return [← anyName limit]) limit))]
  else return []

/-- One constant with its value. -/
def constantElement (r : Rules) : Parser (List Layout) := do
  let n ← name
  let s ← sign "="
  return [branch "const_element" [n, s, ← r.expression 0]]

/-- The constants after the keyword, to the end of the declaration. -/
def constantElements (r : Rules) : Parser (List Layout) := do
  let es ← separated "," (constantElement r) r.limit
  return es ++ [← semicolon]

/-- A constant of a class, after its modifiers. -/
def classConstant (r : Rules) (before : List Layout) : Parser Layout := do
  let c ← word "const"
  let type ← if ← thenSign "=" then pure [] else pure [(← anyType r.limit).inField "type"]
  return branch "const_declaration" (before ++ [c] ++ type ++ (← constantElements r))

/-- One property with its value. -/
def propertyElement (r : Rules) : Parser (List Layout) := do
  let v ← variableName r r.limit
  return [branch "property_element" (v.inField "name" :: (← defaultValue? r "default_value"))]

/-- Properties, after their modifiers. -/
def property (r : Rules) (before : List Layout) : Parser Layout := do
  let type ← if ← atSign "$" then pure [] else pure [(← anyType r.limit).inField "type"]
  let es ← separated "," (propertyElement r) r.limit
  let ending ← if ← atSign "\x7b" then hooks r else pure [← semicolon]
  return branch "property_declaration" (before ++ type ++ es ++ ending)

/-- A method, after its modifiers. -/
def method (r : Rules) (before : List Layout) : Parser Layout := do
  let head ← functionHead r
  let body ← if ← atSign "\x7b" then pure ((← block r).inField "body") else semicolon
  return branch "method_declaration" (before ++ head ++ [body])

/-- The member of a trait that a clause is about. -/
def traitMember (limit : Nat) : Parser Layout := do
  let n ← anyName limit
  if ← atSign "::" then
    let s ← sign "::"
    return branch "class_constant_access_expression" [n, s, ← name]
  else return n

/-- One clause on the members of traits. -/
def traitClause (limit : Nat) : Parser (List Layout) := do
  let m ← traitMember limit
  if ← atWord "insteadof" then
    let k ← word "insteadof"
    let ns ← separated "," (return [← anyName limit]) limit
    return [branch "use_instead_of_clause" (m :: k :: ns), ← semicolon]
  else
    let k ← word "as"
    let t := (← next?).getD default
    let visibility ← if t.kind == .word && modifierKind? t.key == some "visibility_modifier" then pure [← modifier]
      else pure []
    let n ← if ((← next?).map (·.kind == .word)).getD false then pure [← name] else pure []
    if visibility.isEmpty && n.isEmpty then fail
    return [branch "use_as_clause" ([m, k] ++ visibility ++ n), ← semicolon]

/-- The traits that a class uses. -/
def traitUse (limit : Nat) : Parser Layout := do
  let u ← word "use"
  let ns ← separated "," (return [← anyName limit]) limit
  if ← atSign "\x7b" then
    let o ← sign "\x7b"
    let cs ← untilHolds (atSign "\x7d") (traitClause limit) limit
    return branch "use_declaration" (u :: ns ++ [branch "use_list" (o :: cs ++ [← sign "\x7d"])])
  else return branch "use_declaration" (u :: ns ++ [← semicolon])

/-- A case of an enum, after its attributes. -/
def enumCase (r : Rules) (before : List Layout) : Parser Layout := do
  let c ← word "case"
  let n ← name
  let value ← defaultValue? r "value"
  return branch "enum_case" (before ++ [c, n.inField "name"] ++ value ++ [← semicolon])

/-- One member of a class. Properties need a modifier and stand in no enum. -/
def member (r : Rules) (inEnum : Bool) : Parser (List Layout) := do
  if ← atWord "use" then return [← traitUse r.limit]
  let attrs ← attributes? r
  let mods ← modifiers r.limit
  let before := attrs ++ mods
  if ← atWord "function" then return [← method r before]
  else if ← atWord "const" then return [← classConstant r before]
  else if inEnum then
    if mods.isEmpty then return [← enumCase r before] else fail
  else if mods.isEmpty then fail
  else return [← property r before]

/-- The body of a class. -/
def classBody (r : Rules) (inEnum : Bool) : Parser Layout := do
  let o ← sign "\x7b"
  let ms ← untilHolds (atSign "\x7d") (member r inEnum) r.limit
  let kind := if inEnum then "enum_declaration_list" else "declaration_list"
  return (branch kind (o :: ms ++ [← sign "\x7d"])).inField "body"

/-- The names that a class builds on. -/
def classClauses (limit : Nat) : Parser (List Layout) := do
  let base ← nameClause? limit "extends" "base_clause"
  return base ++ (← nameClause? limit "implements" "class_interface_clause")

/-- A class, after its attributes. -/
def classDeclaration (r : Rules) (attrs : List Layout) : Parser Layout := do
  let mods ← modifiers r.limit
  let k ← word "class"
  let n ← name
  let cs ← classClauses r.limit
  return branch "class_declaration" (attrs ++ mods ++ [k, n.inField "name"] ++ cs ++ [← classBody r false])

/-- An interface, after its attributes. -/
def interfaceDeclaration (r : Rules) (attrs : List Layout) : Parser Layout := do
  let k ← word "interface"
  let n ← name
  let base ← nameClause? r.limit "extends" "base_clause"
  return branch "interface_declaration" (attrs ++ [k, n.inField "name"] ++ base ++ [← classBody r false])

/-- A trait, after its attributes. -/
def traitDeclaration (r : Rules) (attrs : List Layout) : Parser Layout := do
  let k ← word "trait"
  let n ← name
  return branch "trait_declaration" (attrs ++ [k, n.inField "name", ← classBody r false])

/-- An enum, after its attributes. -/
def enumDeclaration (r : Rules) (attrs : List Layout) : Parser Layout := do
  let k ← word "enum"
  let n ← name
  let type ← if ← atSign ":" then
      let s ← sign ":"
      pure [s, ← anyType r.limit]
    else pure []
  let interfaces ← nameClause? r.limit "implements" "class_interface_clause"
  return branch "enum_declaration" (attrs ++ [k, n.inField "name"] ++ type ++ interfaces ++ [← classBody r true])

/-- A class without a name, after its attributes and up to its body. -/
def anonymousClassNode (r : Rules) (attrs : List Layout) : Parser Layout := do
  let mods ← modifiers r.limit
  let k ← word "class"
  let args ← if ← atSign "(" then pure [← arguments r] else pure []
  let cs ← classClauses r.limit
  return branch "anonymous_class" (attrs ++ mods ++ [k] ++ args ++ cs ++ [← classBody r false])

end DeadCode.Php
