import DeadCode.Json.Shown

/-!
# Fields of records

Reading the fields of a record from a data object. A field that is missing and has no default, a word outside its
closed list and a value of the wrong shape are told apart.
-/

namespace DeadCode
set_option autoImplicit false

/-- The closed list that a word should belong to. -/
inductive WordList where
  | symbolKind
  | referenceKind
  | severity
  deriving DecidableEq, Repr

/-- The written name of a closed list. -/
def WordList.label : WordList → String
  | .symbolKind => "SymbolKind"
  | .referenceKind => "ReferenceKind"
  | .severity => "Severity"

/-- Why a record cannot be read. -/
inductive RecordError where
  | missing (field : String)
  | unknownWord (list : WordList) (value : Json)
  | wrongShape
  | notAPair (place length : Nat)
  | notAnObject
  deriving Repr

/-- The wording of a record error. -/
def RecordError.message : RecordError → String
  | .missing field => field
  | .unknownWord list value => value.shown ++ " is not a valid " ++ list.label
  | .wrongShape => ""
  | .notAPair place length =>
    "dictionary update sequence element #" ++ toString place ++ " has length " ++ toString length ++ "; 2 is required"
  | .notAnObject => ""

namespace Field

/-- A record being read. -/
abbrev Read (α : Type) := Except RecordError α

/-- The members of a record. -/
def members : Json → Read (List (String × Json))
  | .obj ms => .ok ms
  | _ => .error .wrongShape

/-- A field that has to be there. -/
def required (ms : List (String × Json)) (field : String) : Read Json :=
  match Assoc.get? ms field with
  | some v => .ok v
  | none => .error (.missing field)

/-- A word of a closed list. -/
def word {α : Type} (list : WordList) (ofLabel? : String → Option α) (v : Json) : Read α :=
  match v.str?.bind ofLabel? with
  | some k => .ok k
  | none => .error (.unknownWord list v)

/-- A text. -/
def text : Json → Read String
  | .str s => .ok s
  | _ => .error .wrongShape

/-- A text, or nothing for null. -/
def optionalText : Json → Read (Option String)
  | .str s => .ok (some s)
  | .null => .ok none
  | _ => .error .wrongShape

/-- An integer. -/
def integer : Json → Read Int
  | .int n => .ok n
  | .bool b => .ok (if b then 1 else 0)
  | _ => .error .wrongShape

/-- A list of texts; a text stands for the list of its characters and an object for the list of its keys. -/
def texts : Json → Read (List String)
  | .arr xs => xs.mapM text
  | .str s => .ok (s.toList.map fun c => String.ofList [c])
  | .obj ms => .ok (ms.map (·.1))
  | _ => .error .wrongShape

/-- A field with a default. -/
def withDefault {α : Type} (ms : List (String × Json)) (field : String) (default : α) (read : Json → Read α) : Read α :=
  match Assoc.get? ms field with
  | some v => read v
  | none => .ok default

/-- A flag, false by default. -/
def flag (ms : List (String × Json)) (field : String) : Read Bool :=
  withDefault ms field false fun v => .ok v.isSet

/-- The records of a list field, none by default. -/
def records {α : Type} (ms : List (String × Json)) (field : String) (read : Json → Read α) : Read (List α) :=
  withDefault ms field [] fun v => match v with
    | .arr xs => xs.mapM read
    | .str s => if s.isEmpty then .ok [] else .error .wrongShape
    | .obj ms => if ms.isEmpty then .ok [] else .error .wrongShape
    | _ => .error .wrongShape

end Field
end DeadCode
