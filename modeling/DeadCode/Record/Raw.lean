import DeadCode.Json.Writer
import DeadCode.Record.Field

/-!
# Records as they stand

A record of a data file keeps the values of its fields, whatever these are. Only a word of a closed list is looked at, and a
list or a table is made of anything that can be walked through. What is wrong with the other values comes to light where they
are used.
-/

namespace DeadCode
set_option autoImplicit false

/-- How the value of a field is taken over: as it stands, as a word of a closed list, as a list, or as a table. -/
inductive Form where
  | any
  | word (words : WordList) (known : String → Bool)
  | list
  | table

namespace Form

/-- A pair of a table, at a place in it: something with two elements, of which the first can be a key. -/
def pair (p : Json × Nat) : Field.Read Json :=
  match p.1.elements? with
  | none => .error .wrongShape
  | some [key, value] => if key.isKey then .ok (.arr [key, value]) else .error .wrongShape
  | some xs => .error (.notAPair p.2 xs.length)

/-- A value taken over. A table that is no object is kept as its pairs; of two with the same key the later one counts. -/
def take : Form → Json → Field.Read Json
  | any, v => .ok v
  | word words known, v => if v.str?.any known then .ok v else .error (.unknownWord words v)
  | list, v =>
    match v.elements? with
    | some xs => .ok (.arr xs)
    | none => .error .wrongShape
  | table, .obj ms => .ok (.obj ms)
  | table, v =>
    match v.elements? with
    | some xs => (xs.zipIdx.mapM pair).map .arr
    | none => .error .wrongShape

end Form

/-- A field of a record: its name, how its value is taken over, the value where it is missing, if it may be, and what is
written of a value. -/
structure RawField where
  name : String
  form : Form := .any
  default : Option Json := none
  written : Json → Option Json := some

namespace RawField

/-- A field that may be missing. -/
def withDefault (name : String) (default : Json) : RawField := { name, default := some default }

/-- A field of a form that may be missing. -/
def formed (name : String) (form : Form) (default : Json) : RawField := { name, form, default := some default }

/-- A field that is written only for some values. -/
def sparse (name : String) (default : Json) (written : Json → Option Json) : RawField :=
  { name, default := some default, written }

/-- The field with its value. -/
def read (f : RawField) (ms : List (String × Json)) : Field.Read (String × Json) :=
  match Assoc.get? ms f.name, f.default with
  | some v, _ => (f.form.take v).map (f.name, ·)
  | none, some v => .ok (f.name, v)
  | none, none => .error (.missing f.name)

end RawField

/-- A record: the values of its fields, in order. -/
abbrev RawRecord := List (String × Json)

namespace RawRecord

/-- The record of a data object. -/
def ofJson (fields : List RawField) (j : Json) : Field.Read RawRecord := do
  let ms ← Field.members j
  fields.mapM fun f => f.read ms

/-- The data object of a record. -/
def toJson (fields : List RawField) (r : RawRecord) : Json :=
  .obj (fields.filterMap fun f => ((Assoc.get? r f.name).bind f.written).map (f.name, ·))

end RawRecord
end DeadCode
