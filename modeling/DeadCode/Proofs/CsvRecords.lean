import DeadCode.Proofs.TextPieces
import DeadCode.Report.Lines

/-!
# Comma-separated records

`Spells` says which texts stand for which records: fields with commas between them and a line feed after the last, each written
as it is or between quotes with the quotes inside of it doubled. `records?` reads such a text character by character and finds
the records that it spells (`records?_of_spells`), so no text spells two lists. The records of a report are spelt by what is
written for them, whatever the fields hold and whatever a writer quotes beyond what it has to, and come back
(`csv_reads_back`).
-/

namespace DeadCode.Csv
set_option autoImplicit false

section Format

/-- Does the character separate fields, end a record or open quotes? -/
def isSpecial (c : Char) : Bool := c == ',' || c == '"' || c == '\n'

/-- One character between quotes. -/
def quotedChar (c : Char) : List Char := if c = '"' then ['"', '"'] else [c]

/-- The characters spell the field. -/
inductive SpellsField : String → List Char → Prop
  | plain {v : String} (plain : ∀ c ∈ v.toList, isSpecial c = false) : SpellsField v v.toList
  | quoted (v : String) : SpellsField v ('"' :: v.toList.flatMap quotedChar ++ ['"'])

/-- The characters spell the fields of a record, up to its end. -/
inductive SpellsRecord : List String → List Char → Prop
  | last {v : String} {t : List Char} (field : SpellsField v t) : SpellsRecord [v] (t ++ ['\n'])
  | more {v : String} {vs : List String} {t ts : List Char} (field : SpellsField v t) (fields : SpellsRecord vs ts) :
      SpellsRecord (v :: vs) (t ++ ',' :: ts)

/-- The characters spell the records. -/
inductive Spells : List (List String) → List Char → Prop
  | nil : Spells [] []
  | cons {vs : List String} {rs : List (List String)} {t ts : List Char} (record : SpellsRecord vs t) (records : Spells rs ts) :
      Spells (vs :: rs) (t ++ ts)

end Format

section Reader

/-- Where a reader stands: before a field, in a plain one, in one between quotes, or behind a quote in such a one. -/
inductive Spot where
  | before
  | plain
  | quoted
  | quote
  deriving DecidableEq

/-- What has been read: the records, the fields of the record at hand and the characters of the field at hand. -/
structure Reading where
  records : List (List String) := []
  fields : List String := []
  field : List Char := []
  spot : Spot := .before

namespace Reading

/-- The field at hand ends. -/
def endField (s : Reading) : Reading :=
  { s with fields := s.fields ++ [String.ofList s.field], field := [], spot := .before }

/-- The record at hand ends with its field. -/
def endRecord (s : Reading) : Reading := { records := s.records ++ [s.endField.fields] }

/-- A character outside of quotes. -/
def plainChar (s : Reading) (c : Char) : Option Reading :=
  if c = ',' then some s.endField
  else if c = '\n' then some s.endRecord
  else if c = '"' then none
  else some { s with field := s.field ++ [c], spot := .plain }

/-- One character. Behind a quote, another one stands for itself, and otherwise the field has to end. -/
def next (s : Reading) (c : Char) : Option Reading :=
  match s.spot with
  | .before => if c = '"' then some { s with spot := .quoted } else s.plainChar c
  | .plain => s.plainChar c
  | .quoted => if c = '"' then some { s with spot := .quote } else some { s with field := s.field ++ [c] }
  | .quote =>
    if c = '"' then some { s with field := s.field ++ [c], spot := .quoted }
    else if isSpecial c then s.plainChar c
    else none

/-- One character after the other. -/
def run (s : Reading) : List Char → Option Reading
  | [] => some s
  | c :: cs => (s.next c).bind (run · cs)

end Reading

/-- The records that a text spells. The last one has to end. -/
def records? (s : String) : Option (List (List String)) :=
  (Reading.run {} s.toList).bind fun r => if r.spot = .before ∧ r.fields = [] then some r.records else none

end Reader

namespace Reading

variable {rs : List (List String)} {fs : List String} {w : List Char} {spot : Spot} {e : Char}

/-- What has been read after a field and the character that ends it. -/
def ended (rs : List (List String)) (fs : List String) (v : String) (e : Char) : Reading :=
  if e = ',' then ⟨rs, fs ++ [v], [], .before⟩ else ⟨rs ++ [fs ++ [v]], [], [], .before⟩

theorem next_ends (ends : e = ',' ∨ e = '\n') (outside : spot ≠ .quoted) :
    next ⟨rs, fs, w, spot⟩ e = some (ended rs fs (String.ofList w) e) := by
  rcases ends with rfl | rfl
  all_goals cases spot with
    | quoted => exact absurd rfl outside
    | _ => rfl

theorem next_plain {c : Char} (plain : isSpecial c = false) (unquoted : spot = .before ∨ spot = .plain) :
    next ⟨rs, fs, w, spot⟩ c = some ⟨rs, fs, w ++ [c], .plain⟩ := by
  simp only [isSpecial, Bool.or_eq_false_iff, beq_eq_false_iff_ne] at plain
  obtain ⟨⟨comma, quote⟩, feed⟩ := plain
  rcases unquoted with rfl | rfl
  all_goals simp [next, plainChar, comma, quote, feed]

/-- Between quotes, every character is taken, and two quotes for one. -/
theorem run_quotedChar (c : Char) (rest : List Char) :
    run ⟨rs, fs, w, .quoted⟩ (quotedChar c ++ rest) = run ⟨rs, fs, w ++ [c], .quoted⟩ rest := by
  by_cases quote : c = '"'
  · subst quote
    rfl
  · simp [quotedChar, quote, run, next]

/-- A field is read up to the character that ends it. -/
theorem run_of_spellsField {v : String} {t : List Char} (field : SpellsField v t) (ends : e = ',' ∨ e = '\n')
    (rest : List Char) : run ⟨rs, fs, [], .before⟩ (t ++ e :: rest) = run (ended rs fs v e) rest := by
  cases field with
  | plain plain =>
    -- the field may be empty, so the reader is still before it or already inside
    have taken (cs : List Char) (plain : ∀ c ∈ cs, isSpecial c = false) (w : List Char) (spot : Spot)
        (unquoted : spot = .before ∨ spot = .plain) :
        run ⟨rs, fs, w, spot⟩ (cs ++ e :: rest) = run (ended rs fs (String.ofList (w ++ cs)) e) rest := by
      induction cs generalizing w spot with
      | nil =>
        have outside : spot ≠ .quoted := by rcases unquoted with rfl | rfl <;> decide
        rw [List.nil_append, run, next_ends ends outside, Option.bind_some, List.append_nil]
      | cons c cs ih =>
        obtain ⟨here, others⟩ := List.forall_mem_cons.1 plain
        rw [List.cons_append, run, next_plain here unquoted, Option.bind_some, ih others _ _ (Or.inr rfl),
          List.append_assoc, List.singleton_append]
    rw [taken v.toList plain [] .before (Or.inl rfl), List.nil_append, String.ofList_toList]
  | quoted =>
    have taken (cs w : List Char) : run ⟨rs, fs, w, .quoted⟩ (cs.flatMap quotedChar ++ '"' :: e :: rest) =
        run (ended rs fs (String.ofList (w ++ cs)) e) rest := by
      induction cs generalizing w with
      | nil =>
        have closed : next ⟨rs, fs, w, .quoted⟩ '"' = some ⟨rs, fs, w, .quote⟩ := rfl
        rw [List.flatMap_nil, List.nil_append, run, closed, Option.bind_some, run, next_ends ends (by decide),
          Option.bind_some, List.append_nil]
      | cons c cs ih =>
        rw [List.flatMap_cons, List.append_assoc, run_quotedChar, ih, List.append_assoc, List.singleton_append]
    have whole := taken v.toList []
    rw [List.nil_append, String.ofList_toList] at whole
    rw [← whole, List.cons_append, List.cons_append, List.append_assoc]
    rfl

theorem run_of_spellsRecord {vs : List String} {t : List Char} (record : SpellsRecord vs t) (fs : List String)
    (rest : List Char) : run ⟨rs, fs, [], .before⟩ (t ++ rest) = run ⟨rs ++ [fs ++ vs], [], [], .before⟩ rest := by
  induction record generalizing fs with
  | last field =>
    rw [List.append_assoc, List.singleton_append, run_of_spellsField field (Or.inr rfl)]
    rfl
  | more field fields ih =>
    rw [List.append_assoc, List.cons_append, run_of_spellsField field (Or.inl rfl), ended, if_pos rfl, ih,
      List.append_assoc, List.singleton_append]

theorem run_of_spells {more : List (List String)} {t : List Char} (records : Spells more t) (rs : List (List String)) :
    run ⟨rs, [], [], .before⟩ t = some ⟨rs ++ more, [], [], .before⟩ := by
  induction records generalizing rs with
  | nil => rw [run, List.append_nil]
  | cons record records ih =>
    rw [run_of_spellsRecord record, ih, List.nil_append, List.append_assoc, List.singleton_append]

end Reading

/-- **Reading finds the records that a text spells.** -/
theorem records?_of_spells {rs : List (List String)} {s : String} (spelt : Spells rs s.toList) : records? s = some rs := by
  rw [records?, Reading.run_of_spells spelt]
  rfl

example : records? "a,\"b\"\"\n\"\n" = some [["a", "b\"\n"]] := by decide

end DeadCode.Csv

namespace DeadCode.Report

open Csv

section Spelling

variable (also : Char → Bool)

theorem spellsField_csvField (v : String) : SpellsField v (csvField also v).toList := by
  unfold csvField
  split
  · have quote : "\"".toList = ['"'] := rfl
    have doubled : (fun d => if '"' = d then "\"\"".toList else [d]) = quotedChar := by
      funext c
      by_cases same : c = '"'
      · subst same
        rfl
      · rw [quotedChar, if_neg same, if_neg (Ne.symm same)]
    rw [String.toList_append, String.toList_append, Text.toList_replace quote, doubled]
    exact .quoted v
  · next free =>
    refine .plain fun c mem => ?_
    simp only [needsQuotes, List.any_eq_true, not_exists, not_and, Bool.not_eq_true] at free
    exact (Bool.or_eq_false_iff.1 (free c mem)).1

theorem spellsRecord_csvRecord {fields : List String} (filled : fields ≠ []) :
    SpellsRecord fields (csvRecord also fields).toList := by
  rw [csvRecord, String.toList_append, Text.join, String.toList_intercalate, List.map_map]
  induction fields with
  | nil => exact absurd rfl filled
  | cons v vs ih =>
    cases vs with
    | nil =>
      rw [List.map_singleton, List.intercalate_singleton]
      exact .last (spellsField_csvField also v)
    | cons w vs =>
      rw [List.map_cons, List.map_cons, List.intercalate_cons_cons, List.append_assoc, List.append_assoc]
      exact .more (spellsField_csvField also v) (ih (List.cons_ne_nil w vs))

theorem spells_records {rs : List (List String)} (filled : ∀ fields ∈ rs, fields ≠ []) :
    Spells rs (String.join (rs.map (csvRecord also))).toList := by
  rw [String.toList_join, List.flatMap_map]
  induction rs with
  | nil => exact .nil
  | cons fields rs ih =>
    obtain ⟨here, others⟩ := List.forall_mem_cons.1 filled
    exact .cons (spellsRecord_csvRecord also here) (ih others)

end Spelling

/-- **The records of a report come back.** A text with the records of a report spells the header and then, for each issue, its
rule, severity, path as shown, line, symbol, kind and message, with an empty field for no line and for no kind. It spells
nothing else, and reading finds just that, whatever else the writer puts between quotes. -/
theorem csv_reads_back (r : Report) (also : Char → Bool) :
    let records := ["kind", "severity", "file", "line", "symbol", "symbol_kind", "message"] :: r.issues.map fun i =>
      [i.rule, i.severity.label, r.pathOf i, if i.line = 0 then "" else toString i.line, i.symbol, i.symbolKind.getD "",
        i.message]
    records? (r.csv also) = some records ∧ ∀ rs, Spells rs (r.csv also).toList ↔ rs = records := by
  intro records
  have spelt : Spells records (r.csv also).toList := by
    have filled : ∀ fields ∈ records, fields ≠ [] := by
      simp [records]
    have all := spells_records also filled
    rw [List.map_cons, List.map_map] at all
    exact all
  refine ⟨records?_of_spells spelt, fun rs => ⟨fun other => ?_, fun same => same ▸ spelt⟩⟩
  exact Option.some.inj ((records?_of_spells other).symm.trans (records?_of_spells spelt))

end DeadCode.Report
