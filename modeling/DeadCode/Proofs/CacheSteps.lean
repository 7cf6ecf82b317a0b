import DeadCode.Proofs.CacheRuns

/-!
# What a run does to its cache

The cache of a run tells a fingerprint for each file that it has, and there is a data file for each of them (`Ready`). `Step`
says all that gathering one file can do to the fingerprints and to the disk, and `Halts` why it may do nothing at all; `Steps`
is gathering files one after the other, and `Ends` a whole run, wherever it ends. What holds of a run is proved from these,
by cases. Where nothing stands in the way of the files of the cache, a run can write all of them (`Ends.accepts`).

`Answers` is what the cache has for one file. It is followed through steps by `Step.answers_of_ne` and `Step.answers_self`.
-/

namespace DeadCode
set_option autoImplicit false

namespace Setup

variable {S : Setup} {prints prints' : String → Option String} {d d' : Disk} {file : String}

theorem names_place (S : Setup) {n : String} (own : Cache.Owns n) : (S.place n).names = S.root ++ [n] :=
  Path.names_resolve_below S.here S.directory own.isName

theorem owns_blob (S : Setup) (file : String) : Cache.Owns (S.blob file) := .blob _

theorem blob_not_manifest (S : Setup) (file : String) : ¬(S.blob file = "manifest.tmp" ∨ S.blob file = "manifest.json") :=
  Cache.blobName_not_manifest _

theorem owns_of_eq_blob {n : String} (eq : n = S.blob file) : Cache.Owns n := eq ▸ S.owns_blob file

theorem owns_of_manifest {n : String} (eq : n = "manifest.tmp" ∨ n = "manifest.json") : Cache.Owns n := by
  rcases eq with rfl | rfl
  · exact .draft
  · exact .manifest

/-- The file is none of those that the cache writes or makes directories for. -/
structure Outside (S : Setup) (d : Disk) (file : String) : Prop where
  apart : ∀ n, Cache.Owns n → ¬S.root ++ [n] <+: (S.path file).names
  there : (S.path file).names <+: S.root → d.holds (S.path file) = true

namespace Outside

/-- What a run writes does not change the file. -/
theorem entry_eq (outside : S.Outside d file) (same : Disk.SameBut S.root Cache.Owns d d') :
    d'.get? (S.path file) = d.get? (S.path file) := same.entry_apart outside.apart outside.there

theorem step (outside : S.Outside d file) (same : Disk.SameBut S.root Cache.Owns d d') : S.Outside d' file where
  apart := outside.apart
  there := fun above => by
    rw [Disk.holds, outside.entry_eq same]
    exact outside.there above

theorem print_eq (outside : S.Outside d file) (same : Disk.SameBut S.root Cache.Owns d d') :
    S.print d' file = S.print d file :=
  print_congr (outside.entry_eq same)

theorem parsed_eq (outside : S.Outside d file) (same : Disk.SameBut S.root Cache.Owns d d') :
    S.parsed d' file = S.parsed d file :=
  parsed_congr (same.read_apart outside.apart outside.there)

end Outside

/-- The data file of a file has this content. -/
def Stores (S : Setup) (d : Disk) (file : String) (kept : Collected) : Prop :=
  kept.toJson.Plain S.platform.limits ∧
    ∃ time, d.get? (S.place (S.blob file)) = some (.file (Utf8.encode kept.toJson.compact) time)

/-- The file is new to the cache or has changed. -/
def Misses (S : Setup) (prints : String → Option String) (d : Disk) (file : String) : Prop :=
  prints file = none ∨ prints file ≠ S.print d file

/-- What the cache has for a file: the content that a lookup gives, or nothing. -/
def Answers (S : Setup) (prints : String → Option String) (d : Disk) (file : String) : Option Collected → Prop
  | some content => ∃ p kept, prints file = some p ∧ S.print d file = some p ∧ S.Stores d file kept ∧ kept.reloaded = content
  | none => S.Misses prints d file

/-- Every file with a fingerprint is a path and has a data file. -/
def Backed (S : Setup) (prints : String → Option String) (d : Disk) : Prop :=
  ∀ file p, prints file = some p → file.toList.contains '\x00' = false ∧ ∃ kept, S.Stores d file kept

/-- The manifest on the disk has these fingerprints; without a manifest there are none. -/
def Listed (S : Setup) (prints : String → Option String) (d : Disk) : Prop :=
  d.get? (S.place "manifest.json") = none ∧ prints = (fun _ => none) ∨
    ∃ manifest time, Cache.Records S.platform manifest prints ∧
      d.get? (S.place "manifest.json") = some (.file (Utf8.encode (Json.obj manifest).indented) time)

/-- Nothing stands in the way of the files of the cache. -/
def Accepts (S : Setup) (d : Disk) : Prop := d.Accepts (S.here.resolve S.directory) Cache.Owns

/-- The state within a run: the cache tells these fingerprints, and there are data files for them. -/
structure Ready (S : Setup) (prints : String → Option String) (c : Cache) (d : Disk) : Prop where
  platform : c.platform = S.platform
  directory : c.directory = S.directory
  tells : c.Tells prints
  backed : S.Backed prints d

/-- What gathering a file can do. The cache has it; or it cannot be read as source; or it is parsed, and what it holds is
kept or could not be written. -/
inductive Step (S : Setup) (prints : String → Option String) (d : Disk) (file : String) :
    (String → Option String) → Disk → List LogLine → Gathered → Prop
  | hit (content : Collected) (answer : S.Answers prints d file (some content)) :
      Step S prints d file prints d [] (.found content)
  | failed (why : Failure) (missed : S.Misses prints d file) (parsed : S.parsed d file = .ok (.failed why)) :
      Step S prints d file prints d [] (.failed why)
  | kept (p : String) (content : Collected) (d' : Disk) (missed : S.Misses prints d file)
      (parsed : S.parsed d file = .ok (.found content)) (print : S.print d file = some p)
      (changes : Disk.SameBut S.root (· = S.blob file) d d') (stored : S.Stores d' file content) :
      Step S prints d file (Function.update prints file (some p)) d' [] (.found content)
  | unwritten (content : Collected) (line : LogLine) (missed : S.Misses prints d file)
      (parsed : S.parsed d file = .ok (.found content)) (barred : ¬S.Accepts d) :
      Step S prints d file prints d [line] (.found content)

/-- Why gathering a file may stop the run: nothing can be said of the file, or its data file has no name. -/
inductive Halts (S : Setup) (prints : String → Option String) (d : Disk) (file : String) : GatherError → Prop
  | source (e : SourceError) (missed : S.Misses prints d file) (parsed : S.parsed d file = .error e) :
      Halts S prints d file (.source e)
  | unnamed (content : Collected) (missed : S.Misses prints d file) (parsed : S.parsed d file = .ok (.found content))
      (unnamed : S.platform.pathBytes file = none) : Halts S prints d file (.cache .nameNotText)

/-- Gathering files one after the other. -/
inductive Steps (S : Setup) :
    (String → Option String) → Disk → List String → (String → Option String) → Disk → List LogLine →
      List (String × Gathered) → Prop
  | nil {prints : String → Option String} {d : Disk} : Steps S prints d [] prints d [] []
  | cons {prints prints₁ prints₂ : String → Option String} {d d₁ d₂ : Disk} {file : String} {files : List String}
      {lines more : List LogLine} {g : Gathered} {gs : List (String × Gathered)}
      (first : S.Step prints d file prints₁ d₁ lines g) (rest : Steps S prints₁ d₁ files prints₂ d₂ more gs) :
      Steps S prints d (file :: files) prints₂ d₂ (lines ++ more) ((file, g) :: gs)

/-- How a run can end that finds these fingerprints: a file stops it, or all files are gathered and the manifest is written or
got no further than its draft. -/
inductive Ends (S : Setup) (prints : String → Option String) (r : Run) : Outcome → Prop
  | halted {before others : List String} {f : String} {prints' : String → Option String} {d : Disk} {lines : List LogLine}
      {gs : List (String × Gathered)} {e : GatherError} (files : r.files = before ++ f :: others)
      (steps : S.Steps prints r.disk before prints' d lines gs) (halts : S.Halts prints' d f e) :
      Ends S prints r ⟨d, lines, .error e⟩
  | saved {prints' : String → Option String} {d d' : Disk} {lines : List LogLine} {gs : List (String × Gathered)}
      (steps : S.Steps prints r.disk r.files prints' d lines gs)
      (changes : Disk.SameBut S.root (fun n => n = "manifest.tmp" ∨ n = "manifest.json") d d')
      (gone : d'.get? (S.place "manifest.tmp") = none) (listed : S.Listed prints' d') : Ends S prints r ⟨d', lines, .ok gs⟩
  | unsaved {prints' : String → Option String} {d d' : Disk} {lines more : List LogLine} {gs : List (String × Gathered)}
      (steps : S.Steps prints r.disk r.files prints' d lines gs)
      (changes : Disk.SameBut S.root (· = "manifest.tmp") d d') (barred : ¬S.Accepts d) (told : more ≠ []) :
      Ends S prints r ⟨d', lines ++ more, .ok gs⟩

section Data

variable {f : String} {kept content : Collected}

theorem Stores.of_entry (stored : S.Stores d file kept)
    (same : d'.get? (S.place (S.blob file)) = d.get? (S.place (S.blob file))) : S.Stores d' file kept := by
  obtain ⟨plain, time, held⟩ := stored
  exact ⟨plain, time, same.trans held⟩

theorem Stores.of_sameBut {changed : String → Prop} (stored : S.Stores d file kept)
    (changes : Disk.SameBut S.root changed d d') (other : ¬changed (S.blob file)) : S.Stores d' file kept :=
  stored.of_entry (changes.entry_in (S.names_place (S.owns_blob file)) other)

/-- A new data file takes the place of none but its own. -/
theorem Stores.exists_of_new (stored : S.Stores d f kept) (changes : Disk.SameBut S.root (· = S.blob file) d d')
    (new : S.Stores d' file content) : ∃ kept', S.Stores d' f kept' := by
  by_cases same : S.blob f = S.blob file
  · refine ⟨content, new.1, ?_⟩
    rw [same]
    exact new.2
  · exact ⟨kept, stored.of_sameBut changes same⟩

theorem Backed.of_stores (backed : S.Backed prints d)
    (data : ∀ file kept, S.Stores d file kept → ∃ kept', S.Stores d' file kept') : S.Backed prints d' := by
  intro file p known
  obtain ⟨whole, kept, stored⟩ := backed file p known
  exact ⟨whole, data file kept stored⟩

theorem Backed.of_sameBut {changed : String → Prop} (backed : S.Backed prints d) (changes : Disk.SameBut S.root changed d d')
    (other : ∀ file, ¬changed (S.blob file)) : S.Backed prints d' :=
  backed.of_stores fun file kept stored => ⟨kept, stored.of_sameBut changes (other file)⟩

theorem Listed.of_entry (listed : S.Listed prints d)
    (same : d'.get? (S.place "manifest.json") = d.get? (S.place "manifest.json")) : S.Listed prints d' := by
  rw [Listed, same]
  exact listed

theorem exists_answers (backed : S.Backed prints d) (file : String) : ∃ a, S.Answers prints d file a := by
  by_cases missed : S.Misses prints d file
  · exact ⟨none, missed⟩
  · obtain ⟨known, same⟩ := not_or.1 missed
    obtain ⟨p, known⟩ := Option.ne_none_iff_exists'.1 known
    obtain ⟨-, kept, stored⟩ := backed file p known
    exact ⟨some kept.reloaded, p, kept, known, by rw [← not_not.1 same, known], stored, rfl⟩

theorem Answers.not_misses (answers : S.Answers prints d file (some content)) : ¬S.Misses prints d file := by
  obtain ⟨p, kept, known, same, -⟩ := answers
  rintro (none | other)
  · rw [known] at none
    cases none
  · exact other (known.trans same.symm)

/-- A data file is read in one way only. -/
theorem Answers.unique (answers : S.Answers prints d file (some content)) (stored : S.Stores d file kept) :
    content = kept.reloaded := by
  obtain ⟨p, kept', -, -, ⟨plain', time', held'⟩, rfl⟩ := answers
  obtain ⟨plain, time, held⟩ := stored
  have data := Disk.readJson_of_entry plain (Json.written_compact plain) held
  have data' := Disk.readJson_of_entry plain' (Json.written_compact plain') held'
  have json : kept.toJson = kept'.toJson := Except.ok.inj (data.symm.trans data')
  have read := kept.ofJson_toJson
  rw [json, kept'.ofJson_toJson] at read
  exact Except.ok.inj read

end Data

section Effects

variable {files : List String} {lines : List LogLine} {g : Gathered} {gs : List (String × Gathered)}

theorem sameBut_of_blob (changes : Disk.SameBut S.root (· = S.blob file) d d') : Disk.SameBut S.root Cache.Owns d d' :=
  changes.mono fun _ => owns_of_eq_blob

theorem Step.sameBut (step : S.Step prints d file prints' d' lines g) : Disk.SameBut S.root (· = S.blob file) d d' := by
  cases step with
  | hit => exact .refl
  | failed => exact .refl
  | kept p content d' missed parsed print changes stored => exact changes
  | unwritten => exact .refl

theorem Step.exists_stores (step : S.Step prints d file prints' d' lines g) {f : String} {kept : Collected}
    (stored : S.Stores d f kept) : ∃ kept', S.Stores d' f kept' := by
  cases step with
  | hit => exact ⟨kept, stored⟩
  | failed => exact ⟨kept, stored⟩
  | kept p content d' missed parsed print changes new => exact stored.exists_of_new changes new
  | unwritten => exact ⟨kept, stored⟩

theorem Step.backed (step : S.Step prints d file prints' d' lines g) (backed : S.Backed prints d) :
    S.Backed prints' d' := by
  have old := backed.of_stores fun _ _ => step.exists_stores
  cases step with
  | hit => exact old
  | failed => exact old
  | kept p content d' missed parsed print changes stored =>
    intro f q known
    by_cases own : f = file
    · rw [own]
      exact ⟨whole_of_print print, content, stored⟩
    · rw [Function.update_of_ne own] at known
      exact old f q known
  | unwritten => exact old

/-- Only data files are written. -/
theorem Steps.sameBut (steps : S.Steps prints d files prints' d' lines gs) :
    Disk.SameBut S.root (fun n => ∃ file, n = S.blob file) d d' := by
  induction steps with
  | nil => exact .refl
  | cons first rest ih => exact (first.sameBut.mono fun n eq => ⟨_, eq⟩).trans ih

theorem Steps.sameBut_owns (steps : S.Steps prints d files prints' d' lines gs) : Disk.SameBut S.root Cache.Owns d d' :=
  steps.sameBut.mono fun _ ⟨_, eq⟩ => owns_of_eq_blob eq

/-- No data file is lost. -/
theorem Steps.exists_stores (steps : S.Steps prints d files prints' d' lines gs) {f : String} {kept : Collected}
    (stored : S.Stores d f kept) : ∃ kept', S.Stores d' f kept' := by
  induction steps generalizing kept with
  | nil => exact ⟨kept, stored⟩
  | cons first rest ih =>
    obtain ⟨kept', stored'⟩ := first.exists_stores stored
    exact ih stored'

theorem Steps.backed (steps : S.Steps prints d files prints' d' lines gs) (backed : S.Backed prints d) :
    S.Backed prints' d' := by
  induction steps with
  | nil => exact backed
  | cons first rest ih => exact ih (first.backed backed)

/-- The manifest that a run finds stands throughout the run. -/
theorem Steps.listed (steps : S.Steps prints d files prints' d' lines gs) {prints₀ : String → Option String}
    (listed : S.Listed prints₀ d) : S.Listed prints₀ d' := by
  refine listed.of_entry (steps.sameBut.entry_in (S.names_place .manifest) ?_)
  rintro ⟨file, eq⟩
  exact S.blob_not_manifest file (Or.inr eq.symm)

/-- It has data files for its files throughout the run. -/
theorem Steps.still_backed (steps : S.Steps prints d files prints' d' lines gs) {prints₀ : String → Option String}
    (backed : S.Backed prints₀ d) : S.Backed prints₀ d' := backed.of_stores fun _ _ => steps.exists_stores

/-- A data file that was written is in nobody's way. -/
theorem Step.accepts (step : S.Step prints d file prints' d' lines g) (accepts : S.Accepts d) :
    lines = [] ∧ S.Accepts d' := by
  cases step with
  | hit => exact ⟨rfl, accepts⟩
  | failed => exact ⟨rfl, accepts⟩
  | kept p content d' missed parsed print changes stored =>
    refine ⟨rfl, Disk.Accepts.of_sameBut accepts changes fun q n eq names => ?_⟩
    obtain ⟨-, time, held⟩ := stored
    have same : q.names = (S.place (S.blob file)).names := by rw [names, eq, S.names_place (S.owns_blob file)]; rfl
    rw [Disk.isDirectory, Disk.get?_congr same, held]
  | unwritten content line missed parsed barred => exact absurd accepts barred

theorem Steps.accepts (steps : S.Steps prints d files prints' d' lines gs) (accepts : S.Accepts d) :
    lines = [] ∧ S.Accepts d' := by
  induction steps with
  | nil => exact ⟨rfl, accepts⟩
  | cons first rest ih =>
    obtain ⟨silent, between⟩ := first.accepts accepts
    obtain ⟨silent', after⟩ := ih between
    exact ⟨by rw [silent, silent', List.append_nil], after⟩

theorem Steps.mem_files (steps : S.Steps prints d files prints' d' lines gs) (mem : (file, g) ∈ gs) : file ∈ files := by
  induction steps with
  | nil => cases mem
  | cons first rest ih =>
    rcases List.mem_cons.1 mem with same | later
    · rw [(Prod.mk.inj same).1]
      exact List.mem_cons_self
    · exact List.mem_cons_of_mem _ (ih later)

end Effects

namespace Ready

variable {c : Cache}

/-- A lookup gives what the cache has. -/
theorem get (ready : S.Ready prints c d) (file : String) :
    (∃ content loaded, S.Answers prints d file (some content) ∧ loaded.content = .ok content ∧
      c.get d S.here file = .ok ({ c with hits := c.hits + 1 }, some loaded)) ∨
    (S.Misses prints d file ∧ c.get d S.here file = .ok ({ c with misses := c.misses + 1 }, none)) := by
  obtain ⟨a, answers⟩ := exists_answers ready.backed file
  cases a with
  | some content =>
    refine Or.inl ⟨content, ?_⟩
    obtain ⟨p, kept, known, same, ⟨plain, time, held⟩, rfl⟩ := answers
    refine ⟨kept.records, ⟨p, kept, known, same, ⟨plain, time, held⟩, rfl⟩, kept.content_records, ?_⟩
    rw [place, blob, ← ready.directory, ← ready.platform] at held
    rw [print_eq_some, ← ready.platform] at same
    rw [← ready.platform] at plain
    exact ready.tells.get_of_unchanged known same held plain
  | none =>
    refine Or.inr ⟨answers, ready.tells.get_of_invalid ?_⟩
    cases known : prints file with
    | none => exact ready.tells.isValid_of_new known
    | some p =>
      have now := fingerprint_eq (S := S) (d := d) (ready.backed file p known).1
      rw [← ready.platform] at now
      have other : (S.print d file == some p) = false := by
        rcases answers with new | changed
        · rw [known] at new
          cases new
        · rw [known] at changed
          simpa using changed.symm
      rw [ready.tells.isValid known now, other]

theorem counted (ready : S.Ready prints c d) (hits misses : Nat) : S.Ready prints { c with hits, misses } d :=
  ⟨ready.platform, ready.directory, ⟨ready.tells.enabled, ready.tells.records⟩, ready.backed⟩

/-- Keeping what was parsed is a step, whether the data file can be written or not. -/
theorem set (ready : S.Ready prints c d) (legible : S.platform.Legible) (now : Decimal) {content : Collected}
    (missed : S.Misses prints d file) (parsed : S.parsed d file = .ok (.found content)) {path : List UInt8}
    (named : S.platform.pathBytes file = some path) :
    ∃ prints' d' lines c', c.set d S.here now file content.toJson = (d', lines, .ok c') ∧
      S.Step prints d file prints' d' lines (.found content) ∧ S.Ready prints' c' d' := by
  obtain ⟨p, print⟩ := exists_print parsed
  have current := print_eq_some.1 print
  rw [← ready.platform] at current named
  rcases Cache.set_cases ready.tells now content.toJson current named with ⟨line, undone, barred⟩ |
    ⟨d', c', done, directory, platform, tells, changes, held⟩
  · rw [ready.directory] at barred
    exact ⟨prints, d, [line], c, undone, .unwritten content line missed parsed barred, ready⟩
  · rw [ready.directory, ready.platform] at changes
    rw [Cache.place, ready.directory, ready.platform] at held
    have step := Step.kept p content d' missed parsed print changes ⟨plain_of_parsed legible parsed, now, held⟩
    exact ⟨_, d', [], c', done, step, platform.trans ready.platform, directory.trans ready.directory, tells,
      step.backed ready.backed⟩

/-- Gathering one file is a step or stops the run. -/
theorem gather (ready : S.Ready prints c d) (legible : S.platform.Legible) (r : Run) (file : String) :
    (∃ e, S.Halts prints d file e ∧ c.gather (S.moment r) S.encoding d file = (d, [], .error e)) ∨
    ∃ prints' d' lines c' g, c.gather (S.moment r) S.encoding d file = (d', lines, .ok (c', g)) ∧
      S.Step prints d file prints' d' lines g ∧ S.Ready prints' c' d' := by
  rcases ready.get file with ⟨content, loaded, answer, typed, got⟩ | ⟨missed, got⟩
  · exact Or.inr ⟨prints, d, [], _, _, Cache.gather_of_hit (m := S.moment r) got typed, .hit content answer,
      ready.counted _ _⟩
  · have ready' := ready.counted c.hits (c.misses + 1)
    cases parsed : S.parsed d file with
    | error e => exact Or.inl ⟨_, .source e missed parsed, Cache.gather_of_error (m := S.moment r) got parsed⟩
    | ok g =>
      cases g with
      | failed why =>
        exact Or.inr ⟨prints, d, [], _, _, Cache.gather_of_failed (m := S.moment r) got parsed, .failed why missed parsed,
          ready'⟩
      | found content =>
        have steps := Cache.gather_of_parsed (m := S.moment r) got parsed
        simp only [moment] at steps
        cases named : S.platform.pathBytes file with
        | none =>
          obtain ⟨p, print⟩ := exists_print parsed
          have current := print_eq_some.1 print
          rw [← ready'.platform] at current
          rw [Cache.set_of_unnamed ready'.tells.enabled current (ready'.platform ▸ named)] at steps
          exact Or.inl ⟨_, .unnamed content missed parsed named, steps⟩
        | some path =>
          obtain ⟨prints', d', lines, c', done, step, after⟩ := ready'.set legible r.now missed parsed named
          rw [done] at steps
          exact Or.inr ⟨prints', d', lines, c', _, steps, step, after⟩

/-- Gathering files takes steps up to the end, or up to a file that stops the run. -/
theorem gatherAll (ready : S.Ready prints c d) (legible : S.platform.Legible) (r : Run) (files : List String) :
    (∃ before f others prints' d' lines gs e, files = before ++ f :: others ∧ S.Steps prints d before prints' d' lines gs ∧
      S.Halts prints' d' f e ∧ c.gatherAll (S.moment r) S.encoding d files = (d', lines, .error e)) ∨
    ∃ prints' d' lines c' gs, c.gatherAll (S.moment r) S.encoding d files = (d', lines, .ok (c', gs)) ∧
      S.Steps prints d files prints' d' lines gs ∧ S.Ready prints' c' d' := by
  induction files generalizing prints c d with
  | nil => exact Or.inr ⟨prints, d, [], c, [], rfl, .nil, ready⟩
  | cons file files ih =>
    rcases ready.gather legible r file with ⟨e, halts, stopped⟩ | ⟨prints₁, d₁, lines, c₁, g, done, first, ready₁⟩
    · refine Or.inl ⟨[], file, files, prints, d, [], [], e, rfl, .nil, halts, ?_⟩
      simp only [Cache.gatherAll, stopped]
    · rw [Cache.gatherAll_cons done]
      rcases ih ready₁ with ⟨before, f, others, prints₂, d₂, more, gs, e, rfl, rest, halts, stopped⟩ |
        ⟨prints₂, d₂, more, c₂, gs, ended, rest, ready₂⟩
      · rw [stopped]
        exact Or.inl ⟨file :: before, f, others, prints₂, d₂, _, _, e, rfl, .cons first rest, halts, rfl⟩
      · rw [ended]
        exact Or.inr ⟨prints₂, d₂, _, c₂, _, rfl, .cons first rest, ready₂⟩

end Ready

section Runs

variable {r : Run}

/-- A run finds what the manifest has. -/
theorem Listed.start (listed : S.Listed prints r.disk) (backed : S.Backed prints r.disk) (legible : S.platform.Legible) :
    ∃ c lines, Cache.start S.platform S.directory true r.stamp r.disk S.here = (c, r.disk, lines, .ok ()) ∧
      S.Ready prints c r.disk := by
  rcases listed with ⟨missing, rfl⟩ | ⟨manifest, time, records, held⟩
  · obtain ⟨c, lines, opened, directory, platform, tells⟩ :=
      @Cache.start_of_none S.platform _ _ r.stamp _ missing
    exact ⟨c, lines, opened, platform, directory, tells, backed⟩
  · obtain ⟨c, opened, directory, platform, tells⟩ :=
      Cache.start_of_manifest r.stamp (legible.depth.mono (by decide)) records held
    exact ⟨c, [], opened, platform, directory, tells, backed⟩

/-- **All that a run can do**, if the data that it finds is that of its manifest. -/
theorem Listed.ends (listed : S.Listed prints r.disk) (backed : S.Backed prints r.disk) (legible : S.platform.Legible) :
    S.Ends prints r (S.perform true r) := by
  obtain ⟨c, lines, opened, ready⟩ := listed.start backed legible
  rw [perform_of_start opened]
  rcases ready.gatherAll legible r r.files with ⟨before, f, others, _, _, _, _, e, files, steps, halts, stopped⟩ |
    ⟨prints', d, lines', c', gs, done, steps, ready'⟩
  · rw [stopped]
    exact .halted files steps halts
  · rw [done]
    simp only
    by_cases silent : (c'.save d S.here r.now).2 = []
    · obtain ⟨d', saved, changes, gone, held⟩ := Cache.save_of_silent ready'.tells.enabled silent
      rw [ready'.directory] at changes
      rw [Cache.place, ready'.directory] at gone held
      have records := ready'.tells.records
      rw [ready'.platform] at records
      rw [saved, List.append_nil]
      exact .saved steps changes gone (Or.inr ⟨_, _, records, held⟩)
    · have drafted := (c'.save_cases d S.here r.now).resolve_left silent
      have barred := mt Cache.save_of_accepts silent
      rw [ready'.directory] at drafted barred
      exact .unsaved steps drafted barred silent

/-- A run writes nothing but files of the cache. -/
theorem Ends.sameBut {outcome : Outcome} (ends : S.Ends prints r outcome) :
    Disk.SameBut S.root Cache.Owns r.disk outcome.disk := by
  cases ends with
  | halted files steps halts => exact steps.sameBut_owns
  | saved steps changes gone listed => exact steps.sameBut_owns.trans (changes.mono fun _ => owns_of_manifest)
  | unsaved steps changes barred told => exact steps.sameBut_owns.trans (changes.mono fun _ eq => owns_of_manifest (Or.inl eq))

/-- Where nothing stands in the way of the files of the cache, a run writes all of them, and so can the next one. -/
theorem Ends.accepts {outcome : Outcome} (ends : S.Ends prints r outcome) (accepts : S.Accepts r.disk) :
    outcome.unwritten = [] ∧ S.Accepts outcome.disk := by
  cases ends with
  | halted files steps halts => exact steps.accepts accepts
  | @saved prints' d d' lines gs steps changes gone listed =>
    obtain ⟨silent, between⟩ := steps.accepts accepts
    refine ⟨silent, Disk.Accepts.of_sameBut between changes fun q n eq names => ?_⟩
    rcases eq with rfl | rfl
    · have same : q.names = (S.place "manifest.tmp").names := by rw [names, S.names_place .draft]; rfl
      rw [Disk.isDirectory, Disk.get?_congr same, gone]
    · have same : q.names = (S.place "manifest.json").names := by rw [names, S.names_place .manifest]; rfl
      rw [Disk.isDirectory, Disk.get?_congr same]
      rcases listed with ⟨missing, -⟩ | ⟨_, _, -, held⟩
      · rw [missing]
      · rw [held]
  | unsaved steps changes barred told => exact absurd (steps.accepts accepts).2 barred

end Runs

end Setup
end DeadCode
