import DeadCode.Name
import DeadCode.Record.Raw

/-!
# Imports

One name brought into a file by a `use` statement.
-/

namespace DeadCode
set_option autoImplicit false

/-- An imported name. The kind is `class`, `function` or `constant`; another word counts as a class. -/
structure Import where
  fqn : String
  asName : String
  line : Int
  kind : String := "class"
  file : String := ""
  explicitAlias : Bool := false
  deriving DecidableEq, Inhabited, Repr

namespace Import

/-- The last segment of the imported name. -/
def shortName (u : Import) : String := Name.short u.fqn

/-- The import as a data object. -/
def toJson (u : Import) : Json := .obj [
  ("fqn", .str u.fqn), ("alias", .str u.asName), ("line", .int u.line), ("kind", .str u.kind), ("file", .str u.file),
  ("explicit_alias", .bool u.explicitAlias)]

/-- The fields of an import. -/
def fields : List RawField := [
  { name := "fqn" }, { name := "alias" }, { name := "line" }, .withDefault "kind" (.str "class"),
  .withDefault "file" (.str ""), .withDefault "explicit_alias" (.bool false)]

/-- The import of a data object. -/
def ofJson (j : Json) : Field.Read Import := do
  let ms ← Field.members j
  return {
    fqn := ← Field.text (← Field.required ms "fqn")
    asName := ← Field.text (← Field.required ms "alias")
    line := ← Field.integer (← Field.required ms "line")
    kind := ← Field.withDefault ms "kind" "class" Field.text
    file := ← Field.withDefault ms "file" "" Field.text
    explicitAlias := ← Field.flag ms "explicit_alias" }

/-- The class names that the imports bring in, by alias; the last import of an alias counts. -/
def aliasMap (uses : List Import) : List (String × String) :=
  Assoc.ofPairs ((uses.filter (·.kind == "class")).map fun u => (u.asName, u.fqn))

end Import
end DeadCode
