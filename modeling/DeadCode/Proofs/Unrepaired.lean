import DeadCode.Proofs.BatchOrder
import DeadCode.Proofs.WrittenRepairs

/-!
# Issues that end without a repair

An issue that fails or is skipped may have its file read for the first time, and that is all: the texts that later repairs
see, what counts as changed and what a write puts on the disk are as before (`Session.Untouched`). `Journal` follows a
session through calls and writes down each issue that is taken, with the session and the disk that it finds. What the
session knows is what its journal says (`journal_agrees`): an outcome for each issue that could be taken, and as changed
files those of the repaired issues.
-/

namespace DeadCode.Fix
set_option autoImplicit false

namespace Sources

variable {files files' : Sources} {g : Registry} {d : Disk} {here : Path} {i : Issue} {file : String} {x : SourceFile}

/-- The file counts as changed. -/
def Changed (files : Sources) (file : String) : Prop := ∃ x, Assoc.get? files file = some x ∧ x.modified = true

theorem Quiet.changed_iff (quiet : Quiet g d here files files') : files'.Changed file ↔ files.Changed file := by
  constructor
  · rintro ⟨x, held, changed⟩
    have listed : (file, x) ∈ files.filter (·.2.modified) := by
      rw [← quiet.modified]
      exact List.mem_filter.2 ⟨Assoc.mem_of_get? held, changed⟩
    have mem : file ∈ Assoc.keys files := List.mem_map.2 ⟨(file, x), (List.mem_filter.1 listed).1, rfl⟩
    obtain ⟨y, old⟩ := Assoc.exists_get?_of_mem_keys mem
    obtain rfl := Option.some.inj (held.symm.trans (quiet.held _ _ old))
    exact ⟨x, old, changed⟩
  · rintro ⟨x, held, changed⟩
    exact ⟨x, quiet.held _ _ held, changed⟩

/-- One issue changes its file if it is repaired, and no other one. -/
theorem Ends.changed_iff {r : Except FixError Outcome} (ends : Ends files g d here i files' r) :
    files'.Changed file ↔ files.Changed file ∨ ∃ o, r = .ok o ∧ o.status = .fixed ∧ o.issue.file = file := by
  by_cases unfixed : ∀ o, r = .ok o → o.status ≠ .fixed
  · rw [(ends.quiet unfixed).changed_iff]
    exact ⟨Or.inl, fun h => h.resolve_right fun ⟨o, ok, fixed, _⟩ => unfixed o ok fixed⟩
  · cases ends with
    | stopped => exact absurd (by simp) unfixed
    | early o _ other => exact absurd (fun _ ok => Except.ok.inj ok ▸ other) unfixed
    | kept x _ _ other => exact absurd (fun _ ok => Except.ok.inj ok ▸ other) unfixed
    | repaired x text _ _ new =>
      have fixed : (repairImport i x.text).status = .fixed := status_eq_fixed_iff.2 (by simp [new])
      have issue := issue_repairImport i x.text
      by_cases own : file = i.file
      · have changed : Changed (Assoc.set files i.file { x with text, modified := true }) file :=
          ⟨{ x with text, modified := true }, by rw [own, Assoc.get?_set_self], rfl⟩
        exact ⟨fun _ => Or.inr ⟨_, rfl, fixed, by rw [issue, own]⟩, fun _ => changed⟩
      · rw [Changed, Assoc.get?_set_of_ne _ _ own, ← Changed]
        refine ⟨Or.inl, fun h => h.resolve_right ?_⟩
        rintro ⟨o, ok, -, rfl⟩
        rw [← Except.ok.inj ok, issue] at own
        exact own rfl

end Sources

namespace Session

variable {s s' : Session} {d : Disk} {here : Path} {i : Issue} {file : String}

theorem textOf?_eq (s : Session) (d : Disk) (here : Path) (file : String) :
    s.textOf? d here file = (Sources.source s.files s.codecs d here file).toOption.join.map (·.text) := by
  rw [textOf?, load_eq]
  cases Sources.source s.files s.codecs d here file with
  | error e => rfl
  | ok x => cases x <;> rfl

theorem mem_modifiedFiles (distinct : (Assoc.keys s.files).Nodup) :
    file ∈ s.modifiedFiles ↔ Sources.Changed s.files file := by
  rw [modifiedFiles, Text.sortStrings, List.mem_mergeSort, List.mem_map]
  constructor
  · rintro ⟨⟨f, x⟩, mem, rfl⟩
    obtain ⟨listed, changed⟩ := List.mem_filter.1 mem
    exact ⟨x, Assoc.get?_of_mem distinct listed, changed⟩
  · rintro ⟨x, held, changed⟩
    exact ⟨(file, x), List.mem_filter.2 ⟨Assoc.mem_of_get? held, changed⟩, rfl⟩

/-- What is written depends on the files that are. -/
theorem writeAll_congr {fs : List String} (codecs : s'.codecs = s.codecs)
    (same : ∀ f ∈ fs, Assoc.get? s'.files f = Assoc.get? s.files f) (d : Disk) (here : Path) (now : Decimal) : (s'.writeAll d here now fs).2 = (s.writeAll d here now fs).2 := by
  induction fs generalizing s s' d with
  | nil => rfl
  | cons f fs ih =>
    have rest := fun g mem => same g (List.mem_cons_of_mem f mem)
    rw [writeAll, writeAll, same f List.mem_cons_self, codecs]
    split
    · exact ih codecs rest d
    · rfl
    · simp only [ih codecs rest d]
    · next d₁ _ =>
      have later : (writeAll { s' with written := f :: s'.written } d₁ here now fs).2 =
          (writeAll { s with written := f :: s.written } d₁ here now fs).2 := by
        apply ih
        · exact codecs
        · exact rest
      rw [codecs] at later
      simp only [later]

/-- The session after an issue without a repair. A file keeps its text, or has the one that is on the disk, so that later
repairs see the same texts on every disk that still has the bytes of the files which were read for this issue. What counts
as changed is the same, and so is what a write does to any disk. -/
structure Untouched (d : Disk) (here : Path) (s s' : Session) : Prop where
  seen : ∀ disk : Disk,
    (∀ file, s.text? file = none → s'.text? file ≠ none →
      disk.read (here.resolve (Path.ofString file)) = d.read (here.resolve (Path.ofString file))) →
    ∀ file, s'.textOf? disk here file = s.textOf? disk here file
  held : ∀ file text, s.text? file = some text → s'.text? file = some text
  files : s'.modifiedFiles = s.modifiedFiles
  texts : ∀ file, s'.modifiedText file = s.modifiedText file
  written : s'.written = s.written
  applied : ∀ disk now, (s'.apply disk here now).2 = (s.apply disk here now).2

theorem fetch_congr {g : Registry} {disk : Disk}
    (same : disk.read (here.resolve (Path.ofString file)) = d.read (here.resolve (Path.ofString file))) :
    fetch g disk here file = fetch g d here file := by
  rw [fetch, fetch, same]

/-- A file that was read for an issue is found on another disk with the same bytes. -/
theorem source_of_quiet {disk : Disk} (quiet : Sources.Quiet s.codecs d here s.files s'.files)
    (same : s.text? file = none → s'.text? file ≠ none →
      disk.read (here.resolve (Path.ofString file)) = d.read (here.resolve (Path.ofString file))) :
    Sources.source s'.files s.codecs disk here file = Sources.source s.files s.codecs disk here file := by
  cases old : Assoc.get? s.files file with
  | some x => rw [Sources.source, Sources.source, old, quiet.held file x old]
  | none =>
    cases new : Assoc.get? s'.files file with
    | none => rw [Sources.source, Sources.source, old, new]
    | some x =>
      have read := same (by rw [text?, old, Option.map_none]) (by simp [text?, new])
      have before := quiet.source file
      rw [Sources.source, Sources.source, new, old] at before
      rw [Sources.source, Sources.source, new, old, fetch_congr read]
      exact before

theorem untouched_of_quiet (quiet : Sources.Quiet s.codecs d here s.files s'.files) (dryRun : s'.dryRun = s.dryRun)
    (codecs : s'.codecs = s.codecs) (written : s'.written = s.written) : Untouched d here s s' := by
  have files : s'.modifiedFiles = s.modifiedFiles := by rw [modifiedFiles, modifiedFiles, quiet.modified]
  refine ⟨fun disk same f => ?_, fun f t => text?_of_get? quiet.held f t, files, fun f => ?_, written, fun disk now => ?_⟩
  · rw [textOf?_eq, textOf?_eq, codecs, source_of_quiet quiet (same f)]
  · rw [modifiedText, modifiedText]
    cases old : Assoc.get? s.files f with
    | some x => rw [quiet.held f x old]
    | none =>
      cases new : Assoc.get? s'.files f with
      | none => rfl
      | some x =>
        have unchanged : ¬x.modified = true := fun changed => by
          obtain ⟨y, held, -⟩ := quiet.changed_iff.1 ⟨x, new, changed⟩
          rw [old] at held
          cases held
        simp only [if_neg unchanged]
  · rw [apply, apply, dryRun, files]
    split
    · rfl
    · refine writeAll_congr codecs (fun f mem => ?_) disk here now
      rw [modifiedFiles, Text.sortStrings, List.mem_mergeSort] at mem
      obtain ⟨p, listed, rfl⟩ := List.mem_map.1 mem
      obtain ⟨x, held⟩ := Assoc.exists_get?_of_mem_keys (List.mem_map_of_mem (List.mem_filter.1 listed).1)
      rw [held, quiet.held _ _ held]

theorem untouched_fixIssue (builtIn : s.known = [(importFixer.name, importFixer)])
    (unfixed : ∀ o, (s.fixIssue d here i).2 = .ok o → o.status ≠ .fixed) :
    Untouched d here s (s.fixIssue d here i).1 := by
  rw [fixIssue_eq builtIn] at unfixed ⊢
  exact untouched_of_quiet ((Sources.take_ends s.files s.codecs d here i).quiet unfixed) rfl rfl rfl

end Session

/-- An issue at the moment when it is taken. -/
structure Taking where
  session : Session
  disk : Disk
  issue : Issue

namespace Taking

/-- The session after the issue was taken. -/
def after (here : Path) (t : Taking) : Session := (t.session.fixIssue t.disk here t.issue).1

/-- What became of the issue, if it could be taken. -/
def outcome? (here : Path) (t : Taking) : Option Outcome := (t.session.fixIssue t.disk here t.issue).2.toOption

end Taking

/-- The issues of a batch at the moments when they are taken, up to one that cannot be taken. -/
def Session.takings (here : Path) (d : Disk) : Session → List Issue → List Taking
  | _, [] => []
  | s, i :: is => ⟨s, d, i⟩ ::
    match s.fixIssue d here i with
    | (_, .error _) => []
    | (s, .ok _) => takings here d s is

/-- A session with all that was asked of it since it was new or cleared. -/
structure Journal where
  session : Session
  takings : List Taking := []
  asked : List Issue := []

namespace Journal

def step (here : Path) (j : Journal) (t : Turn) : Journal :=
  match t.call with
  | .fixIssue i =>
    { session := (j.session.fixIssue t.disk here i).1
      takings := j.takings ++ [⟨j.session, t.disk, i⟩]
      asked := j.asked ++ [i] }
  | .fixIssues is =>
    { session := (j.session.fixIssues t.disk here is).1
      takings := j.takings ++ j.session.takings here t.disk (Session.inOrder is)
      asked := j.asked ++ is }
  | .apply now => { j with session := (j.session.apply t.disk here now).1 }
  | .clear => { session := j.session.clear }

/-- The journal of a new session after calls. -/
def run (g : Registry) (here : Path) (dryRun : Bool) (turns : List Turn) : Journal :=
  turns.foldl (step here) { session := .fresh dryRun g }

/-- The session knows of what was taken, and of nothing else. -/
structure Sound (here : Path) (s : Session) (ts : List Taking) : Prop where
  builtIn : s.known = [(importFixer.name, importFixer)]
  distinct : (Assoc.keys s.files).Nodup
  outcomes : s.outcomes = ts.filterMap (·.outcome? here)
  changed : ∀ file, Sources.Changed s.files file ↔ ∃ o ∈ s.outcomes, o.status = .fixed ∧ o.issue.file = file
  moments : ∀ t ∈ ts, t.session.known = [(importFixer.name, importFixer)]

namespace Sound

variable {here : Path} {s : Session} {ts : List Taking} {d : Disk}

theorem of_empty (builtIn : s.known = [(importFixer.name, importFixer)]) (files : s.files = []) (outcomes : s.outcomes = []) :
    Sound here s [] where
  builtIn := builtIn
  distinct := by simp [files, Assoc.keys]
  outcomes := outcomes
  changed := fun file => by simp [files, outcomes, Sources.Changed, Assoc.get?]
  moments := nofun

theorem nodup_keys_take {files : Sources} (distinct : (Assoc.keys files).Nodup) (g : Registry) (d : Disk) (here : Path)
    (i : Issue) : (Assoc.keys (files.take g d here i).1).Nodup := by
  have ends := Sources.take_ends files g d here i
  generalize (files.take g d here i).1 = files', (files.take g d here i).2 = result at ends
  cases ends with
  | stopped => exact distinct
  | early => exact distinct
  | kept => exact Assoc.nodup_keys_set _ distinct
  | repaired => exact Assoc.nodup_keys_set _ distinct

theorem fixIssue (sound : Sound here s ts) (d : Disk) (i : Issue) :
    Sound here (s.fixIssue d here i).1 (ts ++ [⟨s, d, i⟩]) := by
  have step := Session.fixIssue_eq sound.builtIn d here i
  have outcome : Taking.outcome? here ⟨s, d, i⟩ = (Sources.take s.files s.codecs d here i).2.toOption := by
    rw [Taking.outcome?, step]
  have outcomes : (s.fixIssue d here i).1.outcomes = s.outcomes ++ (Sources.take s.files s.codecs d here i).2.toOption.toList := by
    rw [step]
  have files : (s.fixIssue d here i).1.files = (Sources.take s.files s.codecs d here i).1 := by rw [step]
  refine ⟨by rw [step]; exact sound.builtIn, ?_, ?_, fun file => ?_, ?_⟩
  · rw [files]
    exact nodup_keys_take sound.distinct s.codecs d here i
  · rw [outcomes, sound.outcomes, List.filterMap_append, List.filterMap_cons, outcome]
    cases (Sources.take s.files s.codecs d here i).2.toOption <;> rfl
  · rw [files, (Sources.take_ends s.files s.codecs d here i).changed_iff, sound.changed, outcomes]
    cases (Sources.take s.files s.codecs d here i).2 with
    | error e => simp [Except.toOption]
    | ok o => simp [Except.toOption, or_and_right, exists_or]
  · exact List.forall_mem_append.2 ⟨sound.moments, by simpa using sound.builtIn⟩

theorem fixAll (sound : Sound here s ts) (d : Disk) (is : List Issue) :
    Sound here (s.fixAll d here is).1 (ts ++ s.takings here d is) := by
  induction is generalizing s ts with
  | nil => simpa [Session.takings, Session.fixAll] using sound
  | cons i is ih =>
    have first := sound.fixIssue d i
    rcases run : s.fixIssue d here i with ⟨s₁, result⟩
    rw [run] at first
    cases result with
    | error e => simpa only [Session.takings, Session.fixAll, run] using first
    | ok o =>
      have rest := ih first
      rw [List.append_assoc, List.singleton_append] at rest
      simpa only [Session.takings, Session.fixAll, run] using rest

theorem apply (sound : Sound here s ts) (d : Disk) (now : Decimal) : Sound here (s.apply d here now).1 ts := by
  rw [Session.apply]
  split
  · exact sound
  · obtain ⟨written, eq, -⟩ := s.writeAll_keeps d here now s.modifiedFiles
    rw [eq]
    exact ⟨sound.builtIn, sound.distinct, sound.outcomes, sound.changed, sound.moments⟩

theorem step {j : Journal} (sound : Sound here j.session j.takings) (t : Turn) :
    Sound here (j.step here t).session (j.step here t).takings := by
  obtain ⟨d, call⟩ := t
  cases call with
  | fixIssue i => exact sound.fixIssue d i
  | fixIssues is => exact sound.fixAll d (Session.inOrder is)
  | apply now => exact sound.apply d now
  | clear => exact of_empty sound.builtIn rfl rfl

end Sound

/-- What every step keeps holds of every journal. -/
theorem run_induction {P : Journal → Prop} {g : Registry} {here : Path} {dryRun : Bool}
    (start : P { session := .fresh dryRun g }) (step : ∀ j t, P j → P (j.step here t)) (turns : List Turn) :
    P (run g here dryRun turns) := by
  rw [run]
  generalize ({ session := .fresh dryRun g } : Journal) = j at start
  induction turns generalizing j with
  | nil => exact start
  | cons t turns ih => exact ih _ (step j t start)

section Asked

variable {here : Path} {s : Session} {d : Disk}

/-- Every issue of a batch is taken, if none of them stops it. -/
theorem issues_takings {is : List Issue} (ended : ∀ t ∈ s.takings here d is, t.outcome? here ≠ none) :
    (s.takings here d is).map (·.issue) = is := by
  induction is generalizing s with
  | nil => rfl
  | cons i is ih =>
    have first := ended ⟨s, d, i⟩ List.mem_cons_self
    rcases run : s.fixIssue d here i with ⟨s₁, result⟩
    rw [Taking.outcome?, run] at first
    cases result with
    | error e => exact absurd rfl first
    | ok o =>
      simp only [Session.takings, run] at ended ⊢
      rw [List.map_cons, ih fun t mem => ended t (List.mem_cons_of_mem _ mem)]

def Complete (here : Path) (j : Journal) : Prop :=
  (∀ t ∈ j.takings, t.outcome? here ≠ none) → (j.takings.map (·.issue)).Perm j.asked

theorem Complete.step {j : Journal} (complete : j.Complete here) (t : Turn) : (j.step here t).Complete here := by
  obtain ⟨d, call⟩ := t
  cases call with
  | fixIssue i =>
    intro ended
    have before := complete fun t mem => ended t (List.mem_append_left _ mem)
    simpa [Journal.step] using before.append_right [i]
  | fixIssues is =>
    intro ended
    obtain ⟨old, new⟩ := List.forall_mem_append.1 ended
    simp only [Journal.step, List.map_append, issues_takings new]
    exact (complete old).append (Session.inOrder_perm is)
  | apply now => exact complete
  | clear => exact fun _ => .nil

end Asked

theorem length_eq_statuses (os : List Outcome) :
    os.length = (os.filter (·.status == .fixed)).length + (os.filter (·.status == .failed)).length +
      (os.filter (·.status == .skipped)).length := by
  induction os with
  | nil => rfl
  | cons o os ih =>
    cases status : o.status with
    | fixed => simp [status, ih]; omega
    | failed => simp [status, ih]; omega
    | skipped => simp [status, ih]; omega

/-- **Issues without a repair leave no trace.** After any calls, the numbers of the session add up to the issues that could
be taken since it was new or cleared, which are all that were asked for if none was stopped; the changed files are those
of the repaired issues; and an issue that failed or was skipped left the session as it was. -/
theorem journal_agrees (g : Registry) (here : Path) (dryRun : Bool) (turns : List Turn) :
    let j := run g here dryRun turns
    let numbers := j.session.summary
    (numbers.total = numbers.fixed + numbers.failed + numbers.skipped ∧
        numbers.total = (j.takings.filter fun t => (t.outcome? here).isSome).length ∧
        ((∀ t ∈ j.takings, t.outcome? here ≠ none) → (j.takings.map (·.issue)).Perm j.asked)) ∧
      j.session.outcomes = j.takings.filterMap (·.outcome? here) ∧
      (∀ file, file ∈ j.session.modifiedFiles ↔ ∃ o ∈ j.session.outcomes, o.status = .fixed ∧ o.issue.file = file) ∧
      ∀ t ∈ j.takings, (∀ o, t.outcome? here = some o → o.status ≠ .fixed) →
        Session.Untouched t.disk here t.session (t.after here) := by
  intro j numbers
  have sound : Sound here j.session j.takings :=
    run_induction (P := fun j => Sound here j.session j.takings) (.of_empty rfl rfl rfl) (fun _ t kept => kept.step t) turns
  have complete : j.Complete here := run_induction (fun _ => .nil) (fun _ t kept => kept.step t) turns
  have total : numbers.total = (j.takings.filter fun t => (t.outcome? here).isSome).length := by
    simp only [numbers, Session.summary, sound.outcomes, List.length_filterMap_eq_countP, List.countP_eq_length_filter]
  refine ⟨⟨length_eq_statuses _, total, complete⟩, sound.outcomes, fun file => ?_, fun t mem unfixed => ?_⟩
  · rw [Session.mem_modifiedFiles sound.distinct, sound.changed]
  · refine Session.untouched_fixIssue (sound.moments t mem) fun o ended => unfixed o ?_
    rw [Taking.outcome?, ended]
    rfl

/-- An import that is repaired, a line without one, and an issue of another rule. -/
def mixed : List Turn :=
  [⟨Ledger.twoImports, .fixIssue (Ledger.importIssue "B" 3)⟩, ⟨Ledger.twoImports, .fixIssue (Ledger.importIssue "A" 1)⟩,
    ⟨Ledger.twoImports, .fixIssue ⟨"unused-classes", "C", "a.php", 2, .warning, "", none⟩⟩]

theorem journal_agrees_mixed :
    (run {} {} false mixed).session.summary = ⟨3, 1, 1, 1, 1⟩ ∧
      ∀ t ∈ (run {} {} false mixed).takings, t.issue ≠ Ledger.importIssue "B" 3 →
        Session.Untouched t.disk {} t.session (t.after {}) := by
  obtain ⟨-, -, -, untouched⟩ := journal_agrees {} {} false mixed
  have others : ∀ t ∈ (run {} {} false mixed).takings, t.issue ≠ Ledger.importIssue "B" 3 →
      (t.outcome? {}).map (·.status) ≠ some .fixed := by
    decide +kernel
  refine ⟨by decide +kernel, fun t mem other => untouched t mem fun o ended fixed => others t mem other ?_⟩
  rw [ended, Option.map_some, fixed]

end Journal

end DeadCode.Fix
