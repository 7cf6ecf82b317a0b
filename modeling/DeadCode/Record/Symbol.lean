import DeadCode.Name
import DeadCode.Record.Kind
import DeadCode.Record.Raw

/-!
# Symbols

A declared element of a program: a class-like type, a function, a member or a constant.
-/

namespace DeadCode
set_option autoImplicit false

/-- A declaration. Members have an owner, the full name of the class that declares them. -/
structure Symbol where
  kind : SymbolKind
  name : String
  space : String := ""
  file : String := ""
  startLine : Int := 0
  endLine : Int := 0
  visibility : Option String := none
  isStatic : Bool := false
  isAbstract : Bool := false
  isFinal : Bool := false
  parents : List String := []
  interfaces : List String := []
  traits : List String := []
  owner : Option String := none
  ignored : Bool := false
  ignoredRule : Option String := none
  metadata : List (String × Json) := []
  deriving Inhabited, BEq, Repr

namespace Symbol

/-- The owner, where it is not the empty text. -/
def owner? (s : Symbol) : Option String := s.owner.filter (!·.isEmpty)

/-- The full name. -/
def fqn (s : Symbol) : String :=
  match s.owner? with
  | some o => o ++ "::" ++ s.name
  | none => Name.qualify s.space s.name

/-- The full name with the kind in front. -/
def id (s : Symbol) : String := s.kind.label ++ ":" ++ s.fqn

/-- The name used in messages. -/
def displayName (s : Symbol) : String :=
  match s.kind with
  | .property => s.owner.getD "None" ++ "::$" ++ s.name
  | _ => s.fqn

/-- Is the symbol visible in its own class only? -/
def isPrivate (s : Symbol) : Bool := s.visibility == some "private"

/-- Is the symbol visible everywhere? That is so where nothing is said. -/
def isPublic (s : Symbol) : Bool := s.visibility == none || s.visibility == some "public"

/-- Is a metadata flag set? -/
def hasMark (s : Symbol) (key : String) : Bool := ((Assoc.get? s.metadata key).map Json.isSet).getD false

/-- Names of everything the symbol builds on. -/
def supertypes (s : Symbol) : List String := s.parents ++ s.interfaces ++ s.traits

/-- The symbol as a data object. -/
def toJson (s : Symbol) : Json := .obj [
  ("kind", .str s.kind.label), ("name", .str s.name), ("namespace", .str s.space), ("file", .str s.file),
  ("start_line", .int s.startLine), ("end_line", .int s.endLine), ("visibility", .ofOption s.visibility),
  ("is_static", .bool s.isStatic), ("is_abstract", .bool s.isAbstract), ("is_final", .bool s.isFinal),
  ("extends", .ofStrings s.parents), ("implements", .ofStrings s.interfaces), ("uses_traits", .ofStrings s.traits),
  ("owner", .ofOption s.owner), ("ignored", .bool s.ignored), ("ignored_rule", .ofOption s.ignoredRule),
  ("metadata", .obj s.metadata)]

/-- The text of a key of metadata. -/
def keyText : Json → String
  | .str s => s
  | key => key.compact

/-- Metadata as an object; the text of a key stands for it. -/
def metadataObject : Json → Json
  | .arr pairs => .obj (Assoc.ofPairs (pairs.filterMap fun p => match p with
    | .arr [key, value] => some (keyText key, value)
    | _ => none))
  | metadata => metadata

/-- The fields of a symbol. -/
def fields : List RawField := [
  { name := "kind", form := .word .symbolKind fun w => (SymbolKind.ofLabel? w).isSome }, { name := "name" },
  .withDefault "namespace" (.str ""), .withDefault "file" (.str ""), .withDefault "start_line" (.int 0),
  .withDefault "end_line" (.int 0), .withDefault "visibility" .null, .withDefault "is_static" (.bool false),
  .withDefault "is_abstract" (.bool false), .withDefault "is_final" (.bool false), .formed "extends" .list (.arr []),
  .formed "implements" .list (.arr []), .formed "uses_traits" .list (.arr []), .withDefault "owner" .null,
  .withDefault "ignored" (.bool false), .withDefault "ignored_rule" .null,
  { name := "metadata", form := .table, default := some (.obj []), written := fun v => some (metadataObject v) }]

/-- A pair of metadata. Its key has to be a text. -/
def readPair : Json → Field.Read (String × Json)
  | .arr [.str key, value] => .ok (key, value)
  | _ => .error .wrongShape

/-- Metadata: a table with texts as its keys. -/
def readMetadata (v : Json) : Field.Read (List (String × Json)) := do
  match ← Form.table.take v with
  | .obj ms => return ms
  | pairs => return Assoc.ofPairs (← pairs.items.mapM readPair)

/-- The symbol of a data object. -/
def ofJson (j : Json) : Field.Read Symbol := do
  let ms ← Field.members j
  let kind ← Field.word .symbolKind SymbolKind.ofLabel? (← Field.required ms "kind")
  let name ← Field.text (← Field.required ms "name")
  return {
    kind, name
    space := ← Field.withDefault ms "namespace" "" Field.text
    file := ← Field.withDefault ms "file" "" Field.text
    startLine := ← Field.withDefault ms "start_line" 0 Field.integer
    endLine := ← Field.withDefault ms "end_line" 0 Field.integer
    visibility := ← Field.withDefault ms "visibility" none Field.optionalText
    isStatic := ← Field.flag ms "is_static"
    isAbstract := ← Field.flag ms "is_abstract"
    isFinal := ← Field.flag ms "is_final"
    parents := ← Field.withDefault ms "extends" [] Field.texts
    interfaces := ← Field.withDefault ms "implements" [] Field.texts
    traits := ← Field.withDefault ms "uses_traits" [] Field.texts
    owner := ← Field.withDefault ms "owner" none Field.optionalText
    ignored := ← Field.flag ms "ignored"
    ignoredRule := ← Field.withDefault ms "ignored_rule" none Field.optionalText
    metadata := ← Field.withDefault ms "metadata" [] readMetadata }

end Symbol
end DeadCode
