import DeadCode.Proofs.Assoc
import DeadCode.Proofs.BottomUp

/-!
# What a session does with an issue

With the fixer for imports alone, what becomes of an issue depends on nothing but the texts that the session has and the
disk. `Sources.take` says so in one place, and `fixIssue_eq` and `fixAll_eq` bring it to sessions. `Sources.Ends` tells the
ways to end apart: the issue cannot be taken at all, it ends before its file is read, the file stays as it is, or a repair
takes the place of its text.
-/

namespace DeadCode.Fix
set_option autoImplicit false

/-- The files that a session has read. -/
abbrev Sources := List (String × SourceFile)

/-- The file after an outcome: a new text takes the place of the old one. -/
def SourceFile.after (x : SourceFile) (o : Outcome) : SourceFile :=
  match o.newText with
  | some text => { x with text, modified := true }
  | none => x

theorem status_eq_fixed_iff {i : Issue} {text : String} :
    (repairImport i text).status = .fixed ↔ (repairImport i text).newText ≠ none := by
  have same := isSome_newText_repairImport i text
  rw [ne_eq, ← Option.not_isSome_iff_eq_none, same, not_not, beq_iff_eq]

namespace Sources

/-- The file that a repair finds: the one that was read before, else the one on the disk. -/
def source (files : Sources) (g : Registry) (d : Disk) (here : Path) (file : String) : Except FixError (Option SourceFile) :=
  match Assoc.get? files file with
  | some x => .ok (some x)
  | none => Session.fetch g d here file

/-- Takes one issue, on the files alone. -/
def take (files : Sources) (g : Registry) (d : Disk) (here : Path) (i : Issue) : Sources × Except FixError Outcome :=
  if i.file.isEmpty then (files, .ok (.failed i "Issue has no file path"))
  else if isImportIssue i then
    match files.source g d here i.file with
    | .error e => (files, .error e)
    | .ok none => (files, .ok (.failed i ("Could not read file: " ++ i.file)))
    | .ok (some x) =>
      (Assoc.set files i.file (x.after (repairImport i x.text)), .ok (repairImport i x.text))
  else (files, .ok (.skipped i "No fixer available for this issue type"))

/-- Takes issues up to one that cannot be taken, with the outcomes until then. -/
def takeAll (files : Sources) (g : Registry) (d : Disk) (here : Path) : List Issue → Sources × List Outcome × Option FixError
  | [] => (files, [], none)
  | i :: is =>
    match files.take g d here i with
    | (files, .error e) => (files, [], some e)
    | (files, .ok o) =>
      let (files, os, e) := takeAll files g d here is
      (files, o :: os, e)

/-- How an issue can end, with the files after it. -/
inductive Ends (files : Sources) (g : Registry) (d : Disk) (here : Path) (i : Issue) : Sources → Except FixError Outcome → Prop
  | stopped (e : FixError) (taken : isImportIssue i = true) (unread : files.source g d here i.file = .error e) :
      Ends files g d here i files (.error e)
  | early (o : Outcome) (issue : o.issue = i) (unfixed : o.status ≠ .fixed) : Ends files g d here i files (.ok o)
  | kept (x : SourceFile) (taken : isImportIssue i = true) (read : files.source g d here i.file = .ok (some x))
      (unfixed : (repairImport i x.text).status ≠ .fixed) :
      Ends files g d here i (Assoc.set files i.file x) (.ok (repairImport i x.text))
  | repaired (x : SourceFile) (text : String) (taken : isImportIssue i = true)
      (read : files.source g d here i.file = .ok (some x)) (new : (repairImport i x.text).newText = some text) :
      Ends files g d here i (Assoc.set files i.file { x with text, modified := true }) (.ok (repairImport i x.text))

variable {files : Sources} {g : Registry} {d : Disk} {here : Path} {i : Issue}

theorem take_ends (files : Sources) (g : Registry) (d : Disk) (here : Path) (i : Issue) :
    Ends files g d here i (files.take g d here i).1 (files.take g d here i).2 := by
  rw [take]
  split
  · exact .early _ rfl nofun
  · split
    · next taken =>
      split
      · next e unread => exact .stopped e taken unread
      · exact .early _ rfl nofun
      · next x read =>
        cases new : (repairImport i x.text).newText with
        | none =>
          have same : x.after (repairImport i x.text) = x := by simp only [SourceFile.after, new]
          rw [same]
          exact .kept x taken read fun fixed => status_eq_fixed_iff.1 fixed new
        | some text =>
          have changed : x.after (repairImport i x.text) = { x with text, modified := true } := by
            simp only [SourceFile.after, new]
          rw [changed]
          exact .repaired x text taken read new
    · exact .early _ rfl nofun

theorem issue_take {o : Outcome} (ended : (files.take g d here i).2 = .ok o) : o.issue = i := by
  have ends := take_ends files g d here i
  rw [ended] at ends
  generalize (files.take g d here i).1 = files' at ends
  cases ends with
  | early _ issue _ => exact issue
  | kept x _ _ _ => exact issue_repairImport i x.text
  | repaired x text _ _ _ => exact issue_repairImport i x.text

theorem takeAll_cons_ok {is : List Issue} {o : Outcome} (ended : (files.take g d here i).2 = .ok o) :
    files.takeAll g d here (i :: is) =
      (((files.take g d here i).1.takeAll g d here is).1, o :: ((files.take g d here i).1.takeAll g d here is).2.1,
        ((files.take g d here i).1.takeAll g d here is).2.2) := by
  rw [takeAll]
  split
  · next stopped => rw [stopped] at ended; cases ended
  · next run =>
    rw [run] at ended ⊢
    obtain rfl := Except.ok.inj ended
    rfl

theorem takeAll_cons_error {is : List Issue} {e : FixError} (ended : (files.take g d here i).2 = .error e) :
    files.takeAll g d here (i :: is) = ((files.take g d here i).1, [], some e) := by
  rw [takeAll]
  split
  · next run => rw [run] at ended ⊢; rw [Except.error.inj ended]
  · next run => rw [run] at ended; cases ended

/-- Issues after issues: the second ones are taken if the first ones all were. -/
theorem takeAll_append {is js : List Issue} (all : (files.takeAll g d here is).2.2 = none) :
    files.takeAll g d here (is ++ js) =
      (((files.takeAll g d here is).1.takeAll g d here js).1,
        (files.takeAll g d here is).2.1 ++ ((files.takeAll g d here is).1.takeAll g d here js).2.1,
        ((files.takeAll g d here is).1.takeAll g d here js).2.2) := by
  induction is generalizing files with
  | nil => rfl
  | cons i is ih =>
    cases ended : (files.take g d here i).2 with
    | error e => rw [takeAll_cons_error ended] at all; cases all
    | ok o =>
      rw [takeAll_cons_ok ended] at all
      rw [List.cons_append, takeAll_cons_ok ended, takeAll_cons_ok ended, ih all]
      rfl

/-- Where all issues were taken, each has its outcome. -/
theorem issues_takeAll {is : List Issue} (all : (files.takeAll g d here is).2.2 = none) :
    (files.takeAll g d here is).2.1.map (·.issue) = is := by
  induction is generalizing files with
  | nil => rfl
  | cons i is ih =>
    cases ended : (files.take g d here i).2 with
    | error e => rw [takeAll_cons_error ended] at all; cases all
    | ok o =>
      rw [takeAll_cons_ok ended] at all ⊢
      rw [List.map_cons, ih all, issue_take ended]

section Quiet

variable {files' : Sources} {file : String} {x : SourceFile}

/-- The files after an issue without a repair: one of them may have been read for the first time. -/
structure Quiet (g : Registry) (d : Disk) (here : Path) (files files' : Sources) : Prop where
  held : ∀ f x, Assoc.get? files f = some x → Assoc.get? files' f = some x
  source : ∀ f, files'.source g d here f = files.source g d here f
  modified : files'.filter (·.2.modified) = files.filter (·.2.modified)

theorem modified_fetch (read : Session.fetch g d here file = .ok (some x)) : x.modified = false := by
  rw [Session.fetch] at read
  split at read
  · cases read
  · split at read
    · cases read
    · split at read
      · cases read
      · split at read
        · cases read
        · cases read
        · obtain rfl := Option.some.inj (Except.ok.inj read)
          rfl

theorem source_set (files : Sources) (g : Registry) (d : Disk) (here : Path) (file : String) (x : SourceFile) (f : String) :
    Sources.source (Assoc.set files file x) g d here f = if f = file then .ok (some x) else files.source g d here f := by
  by_cases same : f = file
  · rw [same, if_pos rfl, source, Assoc.get?_set_self]
  · rw [if_neg same, source, source, Assoc.get?_set_of_ne _ _ same]

/-- Reading a file for the first time. -/
theorem quiet_read (read : files.source g d here file = .ok (some x)) : Quiet g d here files (Assoc.set files file x) := by
  cases old : Assoc.get? files file with
  | some y =>
    rw [source, old] at read
    obtain rfl := Option.some.inj (Except.ok.inj read)
    rw [Assoc.set_of_get? old]
    exact ⟨fun _ _ held => held, fun _ => rfl, rfl⟩
  | none =>
    have fetched : Session.fetch g d here file = .ok (some x) := by rwa [source, old] at read
    have new : file ∉ Assoc.keys files := fun mem => by
      obtain ⟨y, held⟩ := Assoc.exists_get?_of_mem_keys mem
      rw [old] at held
      cases held
    refine ⟨fun f y held => ?_, fun f => ?_, ?_⟩
    · have other : f ≠ file := fun same => by rw [same, old] at held; cases held
      rw [Assoc.get?_set_of_ne _ _ other, held]
    · rw [source_set]
      split
      · next same => rw [same, read]
      · rfl
    · rw [Assoc.set_of_not_mem x new, List.filter_append]
      simp [modified_fetch fetched]

theorem Ends.quiet {r : Except FixError Outcome} (ends : Ends files g d here i files' r)
    (unfixed : ∀ o, r = .ok o → o.status ≠ .fixed) : Quiet g d here files files' := by
  cases ends with
  | stopped => exact ⟨fun _ _ held => held, fun _ => rfl, rfl⟩
  | early => exact ⟨fun _ _ held => held, fun _ => rfl, rfl⟩
  | kept x _ read _ => exact quiet_read read
  | repaired x text _ _ new =>
    have fixed : (repairImport i x.text).status = .fixed := status_eq_fixed_iff.2 (by simp [new])
    exact absurd fixed (unfixed _ rfl)

end Quiet

end Sources

namespace Session

/-- A session that has been given the fixer for imports and nothing to do. -/
def fresh (dryRun : Bool) (codecs : Registry) : Session := ({ dryRun, codecs } : Session).register importFixer

variable {s : Session} {d : Disk} {here : Path} {i : Issue}

theorem load_eq (s : Session) (d : Disk) (here : Path) (file : String) :
    s.load d here file = (Sources.source s.files s.codecs d here file).map fun x =>
      ((x.elim s fun x => { s with files := Assoc.set s.files file x }), x) := by
  rw [load, Sources.source]
  cases held : Assoc.get? s.files file with
  | some x => simp only [Except.map, Option.elim, Assoc.set_of_get? held]
  | none =>
    cases fetch s.codecs d here file with
    | error e => rfl
    | ok source => cases source <;> rfl

theorem fixerFor?_of_builtIn (builtIn : s.known = [(importFixer.name, importFixer)]) (i : Issue) :
    s.fixerFor? i = if isImportIssue i then some importFixer else none := by
  cases taken : isImportIssue i
  · simp [fixerFor?, fixers, builtIn, importFixer, taken]
  · simp [fixerFor?, fixers, builtIn, importFixer, taken]

theorem record_eq (s : Session) {o : Outcome} {x : SourceFile} (held : Assoc.get? s.files o.issue.file = some x)
    (change : o.isChange = o.newText.isSome) :
    s.record o (some x) =
      { s with files := Assoc.set s.files o.issue.file (x.after o), outcomes := s.outcomes ++ [o] } := by
  cases new : o.newText with
  | none =>
    have same : x.after o = x := by simp only [SourceFile.after, new]
    rw [same, Assoc.set_of_get? held]
    simp [record, new]
  | some text =>
    rw [new, Option.isSome_some] at change
    simp only [record, SourceFile.after, new, change]

/-- What becomes of an issue depends on the files and the disk. -/
theorem fixIssue_eq (builtIn : s.known = [(importFixer.name, importFixer)]) (d : Disk) (here : Path) (i : Issue) :
    s.fixIssue d here i =
      ({ s with
          files := (Sources.take s.files s.codecs d here i).1
          outcomes := s.outcomes ++ (Sources.take s.files s.codecs d here i).2.toOption.toList },
        (Sources.take s.files s.codecs d here i).2) := by
  rw [fixIssue, fixerFor?_of_builtIn builtIn, Sources.take, load_eq]
  cases i.file.isEmpty with
  | true => rfl
  | false =>
    cases isImportIssue i with
    | false => rfl
    | true =>
      cases Sources.source s.files s.codecs d here i.file with
      | error e => simp [Except.map, Except.toOption]
      | ok source =>
        cases source with
        | none => rfl
        | some x =>
          have issue := issue_repairImport i x.text
          have change : (repairImport i x.text).isChange = (repairImport i x.text).newText.isSome := by
            rw [Outcome.isChange, isSome_newText_repairImport, Bool.and_self]
          have held : Assoc.get? (Assoc.set s.files i.file x) (repairImport i x.text).issue.file = some x := by
            rw [issue, Assoc.get?_set_self]
          have recorded := record_eq { s with files := Assoc.set s.files i.file x } held change
          simp only [issue, Assoc.set_set] at recorded
          simp only [Bool.false_eq_true, if_false, if_true, Except.map, Option.elim, importFixer, recorded]
          rfl

theorem fixAll_eq (builtIn : s.known = [(importFixer.name, importFixer)]) (d : Disk) (here : Path) (is : List Issue) :
    s.fixAll d here is =
      ({ s with
          files := (Sources.takeAll s.files s.codecs d here is).1
          outcomes := s.outcomes ++ (Sources.takeAll s.files s.codecs d here is).2.1 },
        match (Sources.takeAll s.files s.codecs d here is).2.2 with
        | none => .ok (Sources.takeAll s.files s.codecs d here is).2.1
        | some e => .error e) := by
  induction is generalizing s with
  | nil => simp [fixAll, Sources.takeAll]
  | cons i is ih =>
    have step := fixIssue_eq builtIn d here i
    cases ended : (Sources.take s.files s.codecs d here i).2 with
    | error e =>
      rw [ended] at step
      simp only [fixAll, step, Sources.takeAll_cons_error ended, Except.toOption, Option.toList_none, List.append_nil]
    | ok o =>
      rw [ended] at step
      have rest := ih (s := { s with files := (Sources.take s.files s.codecs d here i).1, outcomes := s.outcomes ++ [o] }) builtIn
      rw [fixAll, step, Sources.takeAll_cons_ok ended]
      simp only [Except.toOption, Option.toList_some, rest, List.append_assoc, List.cons_append, List.nil_append]
      cases ((Sources.take s.files s.codecs d here i).1.takeAll s.codecs d here is).2.2 <;> rfl

end Session
end DeadCode.Fix
