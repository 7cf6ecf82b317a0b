import DeadCode.Record.Collected
import DeadCode.Proofs.JsonText
import Mathlib.Data.List.Forall2

/-!
# Records and their data form

The data form of what was collected from a file gives the same records back, in the same order. Only an empty name of the
class around a reference is lost (`Reference.reloaded`).
-/

namespace DeadCode
set_option autoImplicit false

namespace Field

theorem optionalText_ofOption (s : Option String) : optionalText (.ofOption s) = .ok s := by
  cases s <;> rfl

/-- A list is read back if every item is. -/
theorem mapM_map {α β γ : Type} {write : α → γ} {read : γ → Read β} {back : α → β} (xs : List α)
    (h : ∀ x ∈ xs, read (write x) = .ok (back x)) : (xs.map write).mapM read = .ok (xs.map back) := by
  induction xs with
  | nil => rfl
  | cons x xs ih =>
    rw [List.map_cons, List.mapM_cons, h x List.mem_cons_self, ih fun y mem => h y (List.mem_cons_of_mem x mem)]
    rfl

theorem texts_ofStrings (xs : List String) : texts (.ofStrings xs) = .ok xs := by
  have back : (xs.map Json.str).mapM text = .ok (xs.map id) := mapM_map xs fun _ _ => rfl
  rwa [List.map_id] at back

end Field

/-- A record is loaded field by field. -/
theorem RawRecord.ofJson_obj {fields : List RawField} {ms : List (String × Json)} {r : RawRecord}
    (each : List.Forall₂ (fun f m => RawField.read f ms = .ok m) fields r) : RawRecord.ofJson fields (.obj ms) = .ok r := by
  have all : fields.mapM (fun f => f.read ms) = .ok r := by
    induction each with
    | nil => rfl
    | cons first _ ih =>
      rw [List.mapM_cons, first, ih]
      rfl
  rw [RawRecord.ofJson, Field.members]
  exact all

theorem Form.take_word {words : WordList} {known : String → Bool} {s : String} (h : known s = true) :
    (word words known).take (.str s) = .ok (.str s) := by
  simp [take, Json.str?, h]

namespace RawField

variable {ms : List (String × Json)} {name : String} {written : Json → Option Json}

theorem read_of_get? {f : RawField} {v w : Json} (held : Assoc.get? ms f.name = some v) (taken : f.form.take v = .ok w) :
    f.read ms = .ok (f.name, w) := by
  rw [read, held]
  simp only [taken]
  rfl

/-- A text that is left out where there is none. -/
theorem read_optional {value : Option String} (held : Assoc.get? ms name = value.map .str) :
    (sparse name .null written).read ms = .ok (name, .ofOption value) := by
  simp only [read, sparse, held]
  cases value <;> rfl

/-- A text that is left out where it is empty. -/
theorem read_text {s : String} (held : Assoc.get? ms name = if s.isEmpty then none else some (.str s)) :
    (sparse name (.str "") written).read ms = .ok (name, .str s) := by
  simp only [read, sparse, held]
  by_cases empty : s = ""
  · rw [empty]; rfl
  · simp [empty, Form.take, Except.map]

/-- A flag that is left out where it is not set. -/
theorem read_flag {b : Bool} (held : Assoc.get? ms name = if b then some (.bool true) else none) :
    (sparse name (.bool false) written).read ms = .ok (name, .bool b) := by
  simp only [read, sparse, held]
  cases b <;> rfl

end RawField

namespace Symbol

/-- A symbol is loaded with all its fields as they were written. -/
theorem raw_toJson (s : Symbol) : RawRecord.ofJson fields s.toJson = .ok s.toJson.members := by
  refine RawRecord.ofJson_obj ?_
  have kind : (SymbolKind.ofLabel? s.kind.label).isSome = true := by rw [SymbolKind.ofLabel?_label]; rfl
  simp only [fields, toJson, Json.members, List.forall₂_cons, List.Forall₂.nil, and_true]
  refine ⟨RawField.read_of_get? rfl (Form.take_word kind), ?_⟩
  and_intros <;> rfl

theorem ofJson_toJson (s : Symbol) : ofJson s.toJson = .ok s := by
  simp [toJson, ofJson, Field.members, Field.required, Field.withDefault, Field.flag, Assoc.get?, Field.word, Json.str?,
    SymbolKind.ofLabel?_label, Field.text, Field.integer, Field.optionalText_ofOption, Field.texts_ofStrings, readMetadata,
    Form.take, Json.isSet, bind, Except.bind, pure, Except.pure]

end Symbol

namespace Reference

/-- The reference without an empty name of the class around it. -/
def reloaded (r : Reference) : Reference := { r with enclosing := r.enclosing.filter (!·.isEmpty) }

theorem get?_optionalMember (key : String) (value : Option String) (k : String) :
    Assoc.get? (optionalMember key value) k = if key == k then value.map .str else none := by
  cases value <;> simp [optionalMember, Assoc.get?]

theorem get?_dynamicMember (b : Bool) (k : String) :
    Assoc.get? (if b then [("is_dynamic", Json.bool true)] else []) k =
      if "is_dynamic" == k && b then some (.bool true) else none := by
  cases b <;> simp [Assoc.get?]

/-- The reference with all its fields. -/
def record (r : Reference) : RawRecord := [
  ("kind", .str r.kind.label), ("symbol_name", .str r.name), ("file", .str r.file), ("line", .int r.line),
  ("symbol_parent", .ofOption r.parent), ("context", .str r.context), ("is_dynamic", .bool r.isDynamic),
  ("alias", .ofOption r.asName), ("enclosing_class", .ofOption (r.enclosing.filter (!·.isEmpty)))]

/-- A field that is left out is loaded as what leaving it out says. -/
theorem raw_toJson (r : Reference) : RawRecord.ofJson fields r.toJson = .ok r.record := by
  have look : ∀ k, Assoc.get? r.toJson.members k = _ := fun k => by
    simp only [toJson, Json.members, Assoc.get?_append, get?_optionalMember, get?_dynamicMember]
    rfl
  have kind : (ReferenceKind.ofLabel? r.kind.label).isSome = true := by rw [ReferenceKind.ofLabel?_label]; rfl
  refine RawRecord.ofJson_obj ?_
  simp only [fields, record, List.forall₂_cons, List.Forall₂.nil, and_true]
  refine ⟨RawField.read_of_get? rfl (Form.take_word kind), RawField.read_of_get? rfl rfl, RawField.read_of_get? rfl rfl,
    RawField.read_of_get? rfl rfl, RawField.read_optional ?_, RawField.read_text ?_, RawField.read_flag ?_,
    RawField.read_optional ?_, RawField.read_optional ?_⟩
  · exact (look _).trans (by simp [Assoc.get?])
  · exact (look _).trans (by cases r.context.isEmpty <;> simp [Assoc.get?])
  · exact (look _).trans (by simp [Assoc.get?])
  · exact (look _).trans (by simp [Assoc.get?])
  · exact (look _).trans (by simp [Assoc.get?])

theorem ofJson_record (r : Reference) : ofJson (.obj r.record) = .ok r.reloaded := by
  simp [record, ofJson, Field.members, Field.required, Field.withDefault, Field.flag, Assoc.get?, Field.word, Json.str?,
    ReferenceKind.ofLabel?_label, Field.text, Field.integer, Field.optionalText_ofOption, Json.isSet, bind, Except.bind,
    pure, Except.pure, reloaded]

theorem reloaded_of_ne {r : Reference} (h : r.enclosing ≠ some "") : r.reloaded = r := by
  have same : r.enclosing.filter (!·.isEmpty) = r.enclosing := by
    cases around : r.enclosing with
    | none => rfl
    | some name =>
      have filled : name ≠ "" := fun eq => h (by rw [around, eq])
      simp [filled]
  rw [reloaded, same]

theorem reloaded_eq_ite (r : Reference) :
    r.reloaded = if r.enclosing = some "" then { r with enclosing := none } else r := by
  split
  · next empty =>
    rw [reloaded, empty]
    rfl
  · next filled => exact reloaded_of_ne filled

/-- An empty name of the class around a reference is left out like a missing one. -/
theorem toJson_reloaded (r : Reference) : r.reloaded.toJson = r.toJson := by
  have twice : (r.enclosing.filter (!·.isEmpty)).filter (!·.isEmpty) = r.enclosing.filter (!·.isEmpty) := by
    simp [Option.filter_filter]
  rw [toJson, toJson, reloaded, twice]

end Reference

theorem Import.raw_toJson (u : Import) : RawRecord.ofJson fields u.toJson = .ok u.toJson.members := by
  refine RawRecord.ofJson_obj ?_
  simp only [fields, toJson, Json.members, List.forall₂_cons, List.Forall₂.nil, and_true]
  and_intros <;> rfl

theorem Import.ofJson_toJson (u : Import) : Import.ofJson u.toJson = .ok u := by
  simp [toJson, ofJson, Field.members, Field.required, Field.withDefault, Field.flag, Assoc.get?, Field.text, Field.integer,
    Json.isSet, bind, Except.bind, pure, Except.pure]

namespace Collected

theorem records_map {α β : Type} {ms : List (String × Json)} {field : String} {write : α → Json} {read : Json → Field.Read β}
    {back : α → β} {xs : List α} (h : Assoc.get? ms field = some (.arr (xs.map write)))
    (each : ∀ x ∈ xs, read (write x) = .ok (back x)) : Field.records ms field read = .ok (xs.map back) := by
  rw [Field.records, Field.withDefault, h]
  exact Field.mapM_map xs each

/-- The content as it is read back from its data form. -/
def reloaded (c : Collected) : Collected := { c with references := c.references.map Reference.reloaded }

/-- The records that the data form is loaded as. -/
def records (c : Collected) : Loaded :=
  { symbols := c.symbols.map (·.toJson.members), references := c.references.map (·.record)
    imports := c.imports.map (·.toJson.members) }

theorem loaded_toJson (c : Collected) : Loaded.ofJson c.toJson = .ok c.records := by
  have symbols : Field.records c.toJson.members "symbols" (RawRecord.ofJson Symbol.fields) = .ok c.records.symbols :=
    records_map rfl fun s _ => s.raw_toJson
  have references : Field.records c.toJson.members "references" (RawRecord.ofJson Reference.fields) =
      .ok c.records.references := records_map rfl fun r _ => r.raw_toJson
  have imports : Field.records c.toJson.members "use_statements" (RawRecord.ofJson Import.fields) = .ok c.records.imports :=
    records_map rfl fun u _ => u.raw_toJson
  simp only [toJson, Json.members] at symbols references imports
  simp only [toJson, Loaded.ofJson, symbols, references, imports, bind, Except.bind, pure, Except.pure]

theorem content_records (c : Collected) : c.records.content = .ok c.reloaded := by
  have symbols : c.records.symbols.mapM (fun r => Symbol.ofJson (.obj r)) = .ok (c.symbols.map id) :=
    Field.mapM_map c.symbols fun s _ => s.ofJson_toJson
  have references : c.records.references.mapM (fun r => Reference.ofJson (.obj r)) =
      .ok (c.references.map Reference.reloaded) := Field.mapM_map c.references fun r _ => r.ofJson_record
  have imports : c.records.imports.mapM (fun r => Import.ofJson (.obj r)) = .ok (c.imports.map id) :=
    Field.mapM_map c.imports fun u _ => u.ofJson_toJson
  rw [List.map_id] at symbols imports
  simp only [Loaded.content, symbols, references, imports, bind, Except.bind, pure, Except.pure, reloaded]

/-- **The data form of what a file holds gives it back**, up to empty names of classes around references. -/
theorem ofJson_toJson (c : Collected) : ofJson c.toJson = .ok c.reloaded := by
  rw [ofJson, c.loaded_toJson]
  exact c.content_records

/-- **What a file holds comes back from its data form** with its records in order, and has the same data form again. -/
theorem exists_reload (c : Collected) :
    ∃ back, ofJson c.toJson = .ok back ∧ back.symbols = c.symbols ∧ back.imports = c.imports ∧
      List.Forall₂ (fun r r' => r' = if r.enclosing = some "" then { r with enclosing := none } else r)
        c.references back.references ∧
      back.toJson = c.toJson := by
  refine ⟨_, c.ofJson_toJson, rfl, rfl, ?_, ?_⟩
  · exact List.forall₂_map_right_iff.2 (List.forall₂_same.2 fun r _ => r.reloaded_eq_ite)
  · simp only [toJson, reloaded, List.map_map, Function.comp_def, Reference.toJson_reloaded]

end Collected

section Plain

variable {l : Json.Limits}

/-- The line numbers that were collected. -/
def Collected.lines (c : Collected) : List Int :=
  c.symbols.flatMap (fun s => [s.startLine, s.endLine]) ++ c.references.map (·.line) ++ c.imports.map (·.line)

theorem Json.plain_ofOption (s : Option String) : Plain l (ofOption s) := by
  cases s
  · exact .null
  · exact .str _

theorem Json.plain_ofStrings (room : l.Room 1) (xs : List String) : Plain l (ofStrings xs) := by
  refine .arr_of_room room fun l' _ _ x mem => ?_
  obtain ⟨s, -, rfl⟩ := List.mem_map.1 mem
  exact .str s

theorem Symbol.plain_toJson {s : Symbol} (room : l.Room 2) (lines : l.allows s.startLine = true ∧ l.allows s.endLine = true)
    (metadata : ∀ l : Json.Limits, l.Room 1 → (Json.obj s.metadata).Plain l) : s.toJson.Plain l := by
  refine .obj_of_room room (fun l' room' digits => ?_) (by simp [Assoc.keys])
  rw [← Json.Limits.allows_congr digits, ← Json.Limits.allows_congr digits] at lines
  simp only [List.forall_mem_cons, List.not_mem_nil, false_implies, implies_true, and_true, metadata l' room',
    Json.plain_ofOption, Json.plain_ofStrings room', Json.Plain.str, Json.Plain.int lines.1, Json.Plain.int lines.2,
    Json.Plain.bool]

theorem Reference.keys_toJson (r : Reference) : (Assoc.keys r.toJson.members).Sublist
    ["kind", "symbol_name", "file", "line", "symbol_parent", "context", "is_dynamic", "alias", "enclosing_class"] := by
  have optional : ∀ key value, (Assoc.keys (optionalMember key value)).Sublist [key] := fun key value => by
    cases value <;> simp [optionalMember, Assoc.keys]
  have dynamic : (Assoc.keys (if r.isDynamic then [("is_dynamic", Json.bool true)] else [])).Sublist ["is_dynamic"] := by
    cases r.isDynamic <;> simp [Assoc.keys]
  have base : (Assoc.keys [("kind", Json.str r.kind.label), ("symbol_name", .str r.name), ("file", .str r.file),
      ("line", .int r.line)]).Sublist ["kind", "symbol_name", "file", "line"] := List.Sublist.refl _
  simp only [toJson, Json.members, Assoc.keys, List.map_append] at *
  exact ((((base.append (optional _ _)).append (optional _ _)).append dynamic).append (optional _ _)).append (optional _ _)

theorem Reference.plain_toJson {r : Reference} (room : l.Room 1) (line : l.allows r.line = true) : r.toJson.Plain l := by
  refine .obj_of_room room (fun l' _ digits => ?_) (r.keys_toJson.nodup (by decide))
  have optional : ∀ key value, ∀ m ∈ optionalMember key value, m.2.Plain l' := fun key value m mem => by
    cases value
    · simp [optionalMember] at mem
    · rw [List.mem_singleton.1 mem]
      exact .str _
  rw [← Json.Limits.allows_congr digits] at line
  simp only [List.forall_mem_append]
  refine ⟨⟨⟨⟨⟨?_, optional _ _⟩, optional _ _⟩, ?_⟩, optional _ _⟩, optional _ _⟩
  · simp only [List.forall_mem_cons, List.not_mem_nil, false_implies, implies_true, and_true, Json.Plain.str,
      Json.Plain.int line]
  · intro m mem
    split at mem
    · rw [List.mem_singleton.1 mem]
      exact .bool true
    · simp at mem

theorem Import.plain_toJson {u : Import} (room : l.Room 1) (line : l.allows u.line = true) : u.toJson.Plain l := by
  refine .obj_of_room room (fun l' _ digits => ?_) (by simp [Assoc.keys])
  rw [← Json.Limits.allows_congr digits] at line
  simp only [List.forall_mem_cons, List.not_mem_nil, false_implies, implies_true, and_true, Json.Plain.str,
    Json.Plain.int line, Json.Plain.bool]

/-- The data form of what was collected has four levels, and no other numbers than those of lines. -/
theorem Collected.plain_toJson {c : Collected} (room : l.Room 4) (lines : ∀ n ∈ c.lines, l.allows n = true)
    (metadata : ∀ s ∈ c.symbols, ∀ l : Json.Limits, l.Room 1 → (Json.obj s.metadata).Plain l) : c.toJson.Plain l := by
  have list : ∀ {α : Type} {write : α → Json} {xs : List α} {l : Json.Limits}, l.Room 3 →
      (∀ l', l'.Room 2 → l'.digits = l.digits → ∀ x ∈ xs, (write x).Plain l') → Json.Plain l (.arr (xs.map write)) :=
    fun room each => .arr_of_room room fun l' room' digits j mem => by
      obtain ⟨x, given, rfl⟩ := List.mem_map.1 mem
      exact each l' room' digits x given
  simp only [Collected.lines, List.forall_mem_append, List.forall_mem_flatMap, List.forall_mem_map, List.forall_mem_cons,
    List.not_mem_nil, false_implies, implies_true, and_true] at lines
  obtain ⟨⟨symbols, references⟩, imports⟩ := lines
  refine .obj_of_room room (fun l₁ room₁ digits₁ => ?_) (by simp [Assoc.keys])
  simp only [List.forall_mem_cons, List.not_mem_nil, false_implies, implies_true, and_true]
  refine ⟨list room₁ fun l₂ room₂ digits₂ s mem => ?_, list room₁ fun l₂ room₂ digits₂ r mem => ?_,
    list room₁ fun l₂ room₂ digits₂ u mem => ?_⟩
  · have same := Json.Limits.allows_congr (digits₂.trans digits₁)
    exact s.plain_toJson room₂ ⟨(same _).trans (symbols s mem).1, (same _).trans (symbols s mem).2⟩ (metadata s mem)
  · exact r.plain_toJson (room₂.mono (by decide)) ((Json.Limits.allows_congr (digits₂.trans digits₁) _).trans (references r mem))
  · exact u.plain_toJson (room₂.mono (by decide)) ((Json.Limits.allows_congr (digits₂.trans digits₁) _).trans (imports u mem))

end Plain

end DeadCode
