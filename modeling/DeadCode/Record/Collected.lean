import DeadCode.Record.Import
import DeadCode.Record.Reference
import DeadCode.Record.Symbol

/-!
# What a file holds

The symbols, references and imports of one file, with their data form. What a data file is loaded as are records as they
stand; whether they make sense is another question.
-/

namespace DeadCode
set_option autoImplicit false

/-- The symbols, references and imports of a file. -/
structure Collected where
  symbols : List Symbol := []
  references : List Reference := []
  imports : List Import := []
  deriving Inhabited

namespace Collected

/-- The records of a file as a data object. -/
def toJson (c : Collected) : Json := .obj [
  ("symbols", .arr (c.symbols.map Symbol.toJson)), ("references", .arr (c.references.map Reference.toJson)),
  ("use_statements", .arr (c.imports.map Import.toJson))]

end Collected

/-- What a data file is loaded as. -/
structure Loaded where
  symbols : List RawRecord := []
  references : List RawRecord := []
  imports : List RawRecord := []
  deriving Inhabited

namespace Loaded

/-- The records of a data object. -/
def ofJson : Json → Field.Read Loaded
  | .obj ms => do
    return {
      symbols := ← Field.records ms "symbols" (RawRecord.ofJson Symbol.fields)
      references := ← Field.records ms "references" (RawRecord.ofJson Reference.fields)
      imports := ← Field.records ms "use_statements" (RawRecord.ofJson Import.fields) }
  | _ => .error .notAnObject

/-- The records as a data object. -/
def toJson (l : Loaded) : Json := .obj [
  ("symbols", .arr (l.symbols.map (RawRecord.toJson Symbol.fields))),
  ("references", .arr (l.references.map (RawRecord.toJson Reference.fields))),
  ("use_statements", .arr (l.imports.map (RawRecord.toJson Import.fields)))]

/-- What was collected, if the records make sense. -/
def content (l : Loaded) : Field.Read Collected := do
  return {
    symbols := ← l.symbols.mapM fun r => Symbol.ofJson (.obj r)
    references := ← l.references.mapM fun r => Reference.ofJson (.obj r)
    imports := ← l.imports.mapM fun r => Import.ofJson (.obj r) }

end Loaded

/-- What was collected, from a data object. -/
def Collected.ofJson (j : Json) : Field.Read Collected := do (← Loaded.ofJson j).content

end DeadCode
