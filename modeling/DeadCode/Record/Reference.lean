import DeadCode.Name
import DeadCode.Record.Kind
import DeadCode.Record.Raw

/-!
# References

A place in a program that names a symbol. A dynamic reference names it by a value computed at run time.
-/

namespace DeadCode
set_option autoImplicit false

/-- A use of a name. `parent` is the class a member is looked up in, `enclosing` the class whose body holds the use. -/
structure Reference where
  kind : ReferenceKind
  name : String
  parent : Option String := none
  file : String := ""
  line : Int := 0
  context : String := ""
  isDynamic : Bool := false
  asName : Option String := none
  enclosing : Option String := none
  deriving DecidableEq, Inhabited, Repr

namespace Reference

/-- The last segment of the name. -/
def shortName (r : Reference) : String := Name.short r.name

/-- The parent, where it is not the empty text. -/
def parent? (r : Reference) : Option String := r.parent.filter (!·.isEmpty)

/-- A member with a text that is written only when there is one. -/
def optionalMember (key : String) (value : Option String) : List (String × Json) :=
  match value with
  | some s => [(key, .str s)]
  | none => []

/-- The reference as a data object; fields that say nothing are left out. -/
def toJson (r : Reference) : Json := .obj <|
  [("kind", .str r.kind.label), ("symbol_name", .str r.name), ("file", .str r.file), ("line", .int r.line)] ++
  optionalMember "symbol_parent" r.parent ++
  optionalMember "context" (if r.context.isEmpty then none else some r.context) ++
  (if r.isDynamic then [("is_dynamic", .bool true)] else []) ++
  optionalMember "alias" r.asName ++
  optionalMember "enclosing_class" (r.enclosing.filter (!·.isEmpty))

/-- The fields of a reference. -/
def fields : List RawField :=
  let filled := fun (v : Json) => match v with
    | .null => none
    | v => some v
  let set := fun (v : Json) => if v.isSet then some v else none
  [{ name := "kind", form := .word .referenceKind fun w => (ReferenceKind.ofLabel? w).isSome }, { name := "symbol_name" },
    .withDefault "file" (.str ""), .withDefault "line" (.int 0), .sparse "symbol_parent" .null filled,
    .sparse "context" (.str "") set, .sparse "is_dynamic" (.bool false) fun v => (set v).map fun _ => .bool true,
    .sparse "alias" .null filled, .sparse "enclosing_class" .null set]

/-- The reference of a data object. -/
def ofJson (j : Json) : Field.Read Reference := do
  let ms ← Field.members j
  let kind ← Field.word .referenceKind ReferenceKind.ofLabel? (← Field.required ms "kind")
  let name ← Field.text (← Field.required ms "symbol_name")
  return {
    kind, name
    parent := ← Field.withDefault ms "symbol_parent" none Field.optionalText
    file := ← Field.withDefault ms "file" "" Field.text
    line := ← Field.withDefault ms "line" 0 Field.integer
    context := ← Field.withDefault ms "context" "" Field.text
    isDynamic := ← Field.flag ms "is_dynamic"
    asName := ← Field.withDefault ms "alias" none Field.optionalText
    enclosing := ← Field.withDefault ms "enclosing_class" none Field.optionalText }

end Reference
end DeadCode
