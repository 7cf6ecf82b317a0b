import DeadCode.Proofs.CacheSteps
import Mathlib.Data.List.Chain

/-!
# A warm cache is invisible

Runs over a project, one after the other and with changes of the files in between, all with one cache directory. What a run
gathers with the cache is what it gathers without it, and it parses a file again only if the file was never collected before
or has another fingerprint than when it was collected last (`History.perform_eq`).

This is so if every run comes to its end. One that stops has written new data files, and the manifest still has the old
fingerprints: a change that is taken back is not noticed (`Setup.results_after_stopped`). `Edited.results_differ` has runs
with and without the cache whose results differ.

What carries the induction is `Warm`: the cache tells the fingerprint of the last collection of each file, and the data file
has what the file held then.
-/

namespace DeadCode
set_option autoImplicit false

/-- What is assumed of the files of a project. -/
structure Lawful (S : Setup) (all : List (Disk × String)) : Prop where
  /-- What is written can be read. -/
  legible : S.platform.Legible
  /-- No file is one of those that the cache writes or makes directories for. -/
  outside : ∀ e ∈ all, S.Outside e.1 e.2
  /-- Every run comes to its end: without the cache, each file gives its content or a failure. -/
  readable : ∀ e ∈ all, ∃ g, S.parsed e.1 e.2 = .ok g
  /-- The name of a collected file is text, so that its data file has a name. -/
  text : ∀ e ∈ all, S.collects e.1 e.2 = true → S.platform.pathBytes e.2 ≠ none
  /-- A file with the same fingerprint as before has the same content. -/
  prints : ∀ e ∈ all, ∀ e' ∈ all, ∀ p, e.2 = e'.2 → S.print e.1 e.2 = some p → S.print e'.1 e'.2 = some p →
    e.1.read (S.path e.2) = e'.1.read (S.path e'.2)
  /-- The data files of collected files have different names. -/
  blobs : ∀ e ∈ all, ∀ e' ∈ all, S.collects e.1 e.2 = true → S.collects e'.1 e'.2 = true → S.blob e.2 = S.blob e'.2 →
    e.2 = e'.2
  /-- Everything like a class has a name. -/
  named : ∀ e ∈ all, ∀ content, S.parsed e.1 e.2 = .ok (.found content) →
    ∀ s ∈ content.symbols, s.kind.isClassLike = true → s.name ≠ ""

/-- A history of runs. Between two of them everything on the disk may change but the files of the cache. -/
structure History (S : Setup) (runs : List Run) : Prop where
  lawful : Lawful S (collections runs)
  /-- The first run finds no manifest. -/
  fresh : ∀ r ∈ runs.head?, r.disk.get? (S.place "manifest.json") = none
  /-- Nothing else writes the files of the cache. -/
  alone : runs.IsChain fun r next => ∀ n, Cache.Owns n →
    next.disk.get? (S.place n) = Disk.get? (S.perform true r).disk (S.place n)
  /-- Everything that is to be written into the directory of the cache can be. -/
  written : ∀ r ∈ runs, (S.perform true r).unwritten = []

/-- The data file of every file that was collected has what the file held when it was collected last. -/
def Kept (S : Setup) (past : List (Disk × String)) (d : Disk) : Prop :=
  ∀ file p, S.lastPrint past file = some p → ∃ then_ content, (then_, file) ∈ past ∧ S.print then_ file = some p ∧
    S.parsed then_ file = .ok (.found content) ∧ S.Stores d file content

theorem Kept.backed {S : Setup} {past : List (Disk × String)} {d : Disk} (kept : Kept S past d) :
    S.Backed (S.lastPrint past) d := by
  intro file p last
  obtain ⟨then_, content, -, print, -, stored⟩ := kept file p last
  exact ⟨Setup.whole_of_print print, content, stored⟩

/-- The state within a run that has found the disk `found`. -/
structure Warm (S : Setup) (past : List (Disk × String)) (found : Disk) (prints : String → Option String) (d : Disk) : Prop where
  prints_eq : prints = S.lastPrint past
  kept : Kept S past d
  same : Disk.SameBut S.root Cache.Owns found d

namespace Lawful

variable {S : Setup} {all : List (Disk × String)} {found d : Disk} {file : String} {prints : String → Option String}

/-- What a run writes does not change the files that it gathers. -/
theorem parsed_eq (lawful : Lawful S all) (mem : (found, file) ∈ all) (same : Disk.SameBut S.root Cache.Owns found d) :
    S.parsed d file = S.parsed found file := (lawful.outside _ mem).parsed_eq same

theorem print_eq (lawful : Lawful S all) (mem : (found, file) ∈ all) (same : Disk.SameBut S.root Cache.Owns found d) :
    S.print d file = S.print found file := (lawful.outside _ mem).print_eq same

/-- No file stops a run. -/
theorem not_halts (lawful : Lawful S all) (mem : (found, file) ∈ all) (same : Disk.SameBut S.root Cache.Owns found d)
    {e : GatherError} : ¬S.Halts prints d file e := by
  intro halts
  cases halts with
  | source e missed parsed =>
    obtain ⟨g, readable⟩ := lawful.readable _ mem
    rw [lawful.parsed_eq mem same, readable] at parsed
    cases parsed
  | unnamed content missed parsed unnamed =>
    rw [lawful.parsed_eq mem same] at parsed
    exact lawful.text _ mem (Setup.collects_iff.2 ⟨content, parsed⟩) unnamed

end Lawful

namespace Warm

variable {S : Setup} {all past : List (Disk × String)} {found d d' : Disk} {file : String}
  {prints prints' : String → Option String} {g : Gathered}

/-- A collection that leaves the last fingerprints as they are changes nothing. -/
theorem mono {past' : List (Disk × String)} (warm : Warm S past found prints d) (more : past ⊆ past')
    (last : S.lastPrint past' = S.lastPrint past) : Warm S past' found prints d where
  prints_eq := warm.prints_eq.trans last.symm
  kept := fun file p known => by
    rw [last] at known
    obtain ⟨then_, content, before, rest⟩ := warm.kept file p known
    exact ⟨then_, content, more before, rest⟩
  same := warm.same

/-- What the cache has for a file is what the file holds. -/
theorem parsed_of_answers (lawful : Lawful S all) (sub : past ⊆ all) (mem : (found, file) ∈ all)
    (warm : Warm S past found prints d) {content : Collected} (answers : S.Answers prints d file (some content)) :
    S.parsed found file = .ok (.found content) ∧ S.lastPrint past file = S.print found file := by
  obtain ⟨p, kept, known, print, stored, eq⟩ := id answers
  rw [warm.prints_eq] at known
  rw [lawful.print_eq mem warm.same] at print
  obtain ⟨then_, content', before, then_print, parsed, stored'⟩ := warm.kept file p known
  -- The data file was written from a disk on which the file had this fingerprint, hence the bytes that it has now.
  have bytes : found.read (S.path file) = then_.read (S.path file) :=
    lawful.prints (found, file) mem (then_, file) (sub before) p rfl print then_print
  have now : S.parsed found file = .ok (.found content') := (Setup.parsed_congr bytes).trans parsed
  have back : content'.reloaded = content' := Setup.reloaded_of_named now (lawful.named (found, file) mem content' now)
  rw [answers.unique stored', back]
  exact ⟨now, known.trans print.symm⟩

/-- Keeping what a file holds: its own data file is new, and no other file has the same one. -/
theorem kept_of_new (lawful : Lawful S all) (sub : past ⊆ all) (mem : (found, file) ∈ all)
    (warm : Warm S past found prints d) {content : Collected} (parsed : S.parsed found file = .ok (.found content))
    (changes : Disk.SameBut S.root (· = S.blob file) d d') (stored : S.Stores d' file content) :
    Kept S (past ++ [(found, file)]) d' := by
  intro f q last
  have collects : S.collects found file = true := Setup.collects_iff.2 ⟨content, parsed⟩
  rw [Setup.lastPrint_of_collects collects] at last
  by_cases own : f = file
  · rw [own, Function.update_self] at last
    rw [own]
    exact ⟨found, content, by simp, last, parsed, stored⟩
  · rw [Function.update_of_ne own] at last
    obtain ⟨then_, content', before, then_print, then_parsed, old⟩ := warm.kept f q last
    -- Both files were collected, so their data files have different names and the older one still stands.
    have other : S.blob f ≠ S.blob file := fun eq =>
      own (lawful.blobs (then_, f) (sub before) (found, file) mem (Setup.collects_iff.2 ⟨content', then_parsed⟩) collects eq)
    exact ⟨then_, content', List.mem_append_left _ before, then_print, then_parsed, old.of_sameBut changes other⟩

/-- A step that tells of nothing gives what the file holds. -/
theorem step (lawful : Lawful S all) (sub : past ⊆ all) (mem : (found, file) ∈ all) (warm : Warm S past found prints d)
    (step : S.Step prints d file prints' d' [] g) :
    S.parsed found file = .ok g ∧ Warm S (past ++ [(found, file)]) found prints' d' := by
  have more : past ⊆ past ++ [(found, file)] := List.subset_append_left _ _
  cases step with
  | hit content answer =>
    obtain ⟨parsed, last⟩ := warm.parsed_of_answers lawful sub mem answer
    refine ⟨parsed, warm.mono more ?_⟩
    rw [Setup.lastPrint_of_collects (Setup.collects_iff.2 ⟨content, parsed⟩), ← last, Function.update_eq_self]
  | failed why missed parsed =>
    rw [lawful.parsed_eq mem warm.same] at parsed
    refine ⟨parsed, warm.mono more (Setup.lastPrint_of_not_collects ?_)⟩
    simp [Setup.collects, parsed]
  | kept p content d' missed parsed print changes stored =>
    rw [lawful.parsed_eq mem warm.same] at parsed
    rw [lawful.print_eq mem warm.same] at print
    refine ⟨parsed, ?_, warm.kept_of_new lawful sub mem parsed changes stored,
      warm.same.trans (Setup.sameBut_of_blob changes)⟩
    rw [Setup.lastPrint_of_collects (Setup.collects_iff.2 ⟨content, parsed⟩), print, warm.prints_eq]

/-- Steps that tell of nothing give what the files hold. -/
theorem steps (lawful : Lawful S all) {files : List String} {lines : List LogLine} {gs : List (String × Gathered)}
    (steps : S.Steps prints d files prints' d' lines gs) (silent : lines = []) (sub : past ⊆ all)
    (mem : ∀ file ∈ files, (found, file) ∈ all) (warm : Warm S past found prints d) :
    List.Forall₂ (fun file g => g.1 = file ∧ S.parsed found file = .ok g.2) files gs ∧
      Warm S (past ++ files.map (found, ·)) found prints' d' := by
  induction steps generalizing past with
  | nil => exact ⟨.nil, by simpa using warm⟩
  | @cons prints prints₁ prints₂ d d₁ d₂ file files lines more g gs first rest ih =>
    obtain ⟨rfl, silent'⟩ := List.append_eq_nil_iff.1 silent
    have here : (found, file) ∈ all := mem file List.mem_cons_self
    obtain ⟨parsed, warm₁⟩ := warm.step lawful sub here first
    have sub₁ : past ++ [(found, file)] ⊆ all := List.append_subset.2 ⟨sub, by simpa using here⟩
    obtain ⟨each, warm₂⟩ := ih silent' sub₁ (fun f given => mem f (List.mem_cons_of_mem _ given)) warm₁
    rw [List.append_assoc] at warm₂
    exact ⟨.cons ⟨rfl, parsed⟩ each, warm₂⟩

end Warm

/-- The state between two runs. -/
structure Stored (S : Setup) (past : List (Disk × String)) (d : Disk) : Prop where
  kept : Kept S past d
  listed : S.Listed (S.lastPrint past) d

namespace Stored

variable {S : Setup} {all past : List (Disk × String)} {r : Run} {d d' : Disk}

theorem warm (stored : Stored S past d) : Warm S past d (S.lastPrint past) d := ⟨rfl, stored.kept, .refl⟩

/-- Changes of other files than those of the cache. -/
theorem congr (stored : Stored S past d) (same : ∀ n, Cache.Owns n → d'.get? (S.place n) = d.get? (S.place n)) :
    Stored S past d' where
  kept := fun file p last => by
    obtain ⟨then_, content, before, print, parsed, old⟩ := stored.kept file p last
    exact ⟨then_, content, before, print, parsed, old.of_entry (same _ (S.owns_blob file))⟩
  listed := stored.listed.of_entry (same _ .manifest)

/-- A whole run. -/
theorem perform (lawful : Lawful S all) (sub : past ⊆ all) (mem : ∀ file ∈ r.files, (r.disk, file) ∈ all)
    (stored : Stored S past r.disk) (written : (S.perform true r).unwritten = []) :
    ∃ gs, (S.perform true r).results = .ok gs ∧
      List.Forall₂ (fun file g => g.1 = file ∧ S.parsed r.disk file = .ok g.2) r.files gs ∧
      Stored S (past ++ r.files.map (r.disk, ·)) (S.perform true r).disk := by
  have ends := stored.listed.ends stored.kept.backed lawful.legible
  revert ends written
  generalize S.perform true r = outcome
  intro written ends
  cases ends with
  | @halted before others f prints' d lines gs e files steps halts =>
    exact absurd halts (lawful.not_halts (mem f (by simp [files])) steps.sameBut_owns)
  | saved steps changes gone listed =>
    obtain ⟨each, warm⟩ := stored.warm.steps lawful steps written sub mem
    refine ⟨_, rfl, each, fun file p last => ?_, warm.prints_eq ▸ listed⟩
    obtain ⟨then_, content, before, print, parsed, old⟩ := warm.kept file p last
    exact ⟨then_, content, before, print, parsed, old.of_sameBut changes (S.blob_not_manifest file)⟩
  | unsaved steps changes barred told => exact absurd (List.append_eq_nil_iff.1 written).2 told

end Stored

namespace History

variable {S : Setup} {before after : List Run} {r : Run}

/-- What a run finds. -/
theorem stored (history : History S (before ++ r :: after)) : Stored S (collections before) r.disk := by
  induction before using List.reverseRecOn generalizing r after with
  | nil =>
    refine ⟨fun file p last => ?_, Or.inl ⟨history.fresh r rfl, rfl⟩⟩
    cases last
  | append_singleton before q ih =>
    -- `q` is the run right before `r`: what it leaves behind is what `r` finds, but for files that are not the cache's.
    rw [List.append_assoc, List.singleton_append] at history
    obtain ⟨gs, -, -, stored⟩ := (ih history).perform history.lawful (collections_subset before _)
      (fun file mem => mem_collections (by simp) mem) (history.written q (by simp))
    have alone := (List.isChain_append_cons_cons.1 history.alone).2.1
    rw [collections_append, collections_cons]
    simpa [collections] using stored.congr alone

end History

section Stopped

variable {S : Setup} {r r' : Run} {prints : String → Option String} {file f : String} {content : Collected}

end Stopped

namespace Edited

/-- A version of a file: its name, its text and the time of its last change. -/
structure Version where
  file : String
  text : String
  time : Int

def Version.entry (v : Version) : Entry := .file (Utf8.encode v.text) (Decimal.ofInt v.time)

def Version.print (v : Version) : String := Cache.printOf (Decimal.ofInt v.time) (Utf8.encode v.text).length

def base : Version := ⟨"a.php", "A", 1⟩
def edited : Version := ⟨"a.php", "Edited", 2⟩
def draft : Version := ⟨"b.php", "B", 1⟩
def final : Version := ⟨"b.php", "Final", 2⟩

/-- Versions that can be collected. -/
def sources : List Version := [base, edited, draft, final]

/-- A file that stops every run: the name of its encoding is none. -/
def nameless : Version := ⟨"z.php", "declare(encoding='a\x00b');", 2⟩

/-- The disk after files were written. -/
def write (d : Disk) (vs : List Version) : Disk := vs.foldl (fun d v => d.put (sampleSetup.path v.file) v.entry) d

/-- The run that makes the cache. -/
def cold : Run where
  disk := write {} [base, draft]
  now := Decimal.ofInt 3
  stamp := ""
  files := ["a.php", "b.php"]

/-- The run after one of the files was changed. -/
def warm : Run where
  disk := write (sampleSetup.perform true cold).disk [final]
  now := Decimal.ofInt 4
  stamp := ""
  files := ["b.php", "a.php"]

/-- Each version has a class of which it is the name. -/
theorem collected : ∀ v ∈ sources,
    (match Gathered.ofBytes samplePlatform sampleSetup.encoding v.file (Utf8.encode v.text) with
      | .ok (.found content) => content.symbols.map (·.name)
      | _ => []) = [v.text] := by
  decide +kernel

theorem filled : ∀ v ∈ sources, v.text ≠ "" := by
  decide

theorem prints_differ : ∀ v ∈ sources, ∀ w ∈ sources, v.file = w.file → v.print = w.print → v.text = w.text := by
  decide +kernel

/-- The files are not where the cache is. -/
theorem apart : ∀ v ∈ nameless :: sources,
    ¬sampleSetup.root <+: (sampleSetup.path v.file).names ∧ ¬(sampleSetup.path v.file).names <+: sampleSetup.root := by
  decide

theorem whole : ∀ v ∈ nameless :: sources, v.file.toList.contains '\x00' = false := by
  decide

theorem blobs_differ : ∀ v ∈ sources, ∀ w ∈ sources,
    sampleSetup.blob v.file = sampleSetup.blob w.file → v.file = w.file := by
  decide +kernel

theorem outside {v : Version} (given : v ∈ nameless :: sources) (d : Disk) : sampleSetup.Outside d v.file where
  apart := fun _ _ inside => (apart v given).1 ((List.prefix_append _ _).trans inside)
  there := fun above => absurd above (apart v given).2

/-- Files that are written are not those of the cache. -/
theorem get?_write_place {vs : List Version} (given : vs ⊆ nameless :: sources) (d : Disk) {n : String} (own : Cache.Owns n) :
    (write d vs).get? (sampleSetup.place n) = d.get? (sampleSetup.place n) := by
  induction vs generalizing d with
  | nil => rfl
  | cons v vs ih =>
    obtain ⟨mem, rest⟩ := List.cons_subset.1 given
    refine (ih rest _).trans (Disk.get?_put_of_ne _ fun eq => (apart v mem).1 ?_)
    rw [← eq, sampleSetup.names_place own]
    exact List.prefix_append _ _

theorem accepts_write {vs : List Version} (given : vs ⊆ nameless :: sources) {d : Disk} (accepts : sampleSetup.Accepts d) :
    sampleSetup.Accepts (write d vs) := by
  induction vs generalizing d with
  | nil => exact accepts
  | cons v vs ih =>
    obtain ⟨mem, rest⟩ := List.cons_subset.1 given
    exact ih rest (Disk.Accepts.put accepts (apart v mem).2)

theorem accepts_empty : sampleSetup.Accepts {} where
  way := fun q _ => by simp only [Disk.isFile, Disk.get?]; split <;> simp_all [Assoc.get?]
  free := fun q m _ names => by simp [Disk.isDirectory, Disk.get?, names, Assoc.get?]

theorem exists_content {v : Version} (given : v ∈ sources) {d : Disk}
    (held : d.get? (sampleSetup.path v.file) = some v.entry) :
    ∃ content, sampleSetup.parsed d v.file = .ok (.found content) ∧ content.symbols.map (·.name) = [v.text] := by
  have found := collected v given
  rw [Setup.parsed_of_entry held (whole v (List.mem_cons_of_mem _ given))]
  split at found
  · next content eq => exact ⟨content, eq, found⟩
  · cases found

/-- The disk has some version of the file. -/
def Known (e : Disk × String) : Prop :=
  ∃ v ∈ sources, e.2 = v.file ∧ Disk.get? e.1 (sampleSetup.path v.file) = some v.entry

theorem lawful_of_known {all : List (Disk × String)} (known : ∀ e ∈ all, Known e) : Lawful sampleSetup all where
  legible := Platform.legible_of_unlimited rfl
  outside := fun e mem => by
    obtain ⟨v, given, file, -⟩ := known e mem
    rw [file]
    exact outside (List.mem_cons_of_mem _ given) e.1
  readable := fun e mem => by
    obtain ⟨v, given, file, held⟩ := known e mem
    obtain ⟨content, parsed, -⟩ := exists_content given held
    rw [file]
    exact ⟨_, parsed⟩
  text := fun e _ _ => Option.some_ne_none _
  prints := fun e mem e' mem' p same print print' => by
    obtain ⟨v, given, file, held⟩ := known e mem
    obtain ⟨w, given', file', held'⟩ := known e' mem'
    rw [file, Setup.print_of_entry held (whole v (List.mem_cons_of_mem _ given))] at print
    rw [file', Setup.print_of_entry held' (whole w (List.mem_cons_of_mem _ given'))] at print'
    have text : v.text = w.text :=
      prints_differ v given w given' (by rw [← file, ← file', same]) (Option.some.inj (print.trans print'.symm))
    rw [file, file', Disk.read, Disk.read, held, held']
    simp only [Version.entry, text]
  blobs := fun e mem e' mem' _ _ same => by
    obtain ⟨v, given, file, -⟩ := known e mem
    obtain ⟨w, given', file', -⟩ := known e' mem'
    rw [file, file'] at same ⊢
    exact blobs_differ v given w given' same
  named := fun e mem content parsed s declared _ => by
    obtain ⟨v, given, file, held⟩ := known e mem
    obtain ⟨content', parsed', names⟩ := exists_content given held
    rw [file, parsed'] at parsed
    cases parsed
    have name : s.name ∈ content.symbols.map (·.name) := List.mem_map_of_mem declared
    rw [names, List.mem_singleton] at name
    rw [name]
    exact filled v given

/-- Where there is no manifest, nothing is stored. -/
theorem stored_of_missing {d : Disk} (missing : d.get? (sampleSetup.place "manifest.json") = none) :
    Stored sampleSetup [] d := ⟨nofun, Or.inl ⟨missing, rfl⟩⟩

/-- Everything can be written, in one run after the other. -/
theorem accepts_perform {past : List (Disk × String)} {r : Run} (stored : Stored sampleSetup past r.disk)
    (accepts : sampleSetup.Accepts r.disk) :
    (sampleSetup.perform true r).unwritten = [] ∧ sampleSetup.Accepts (sampleSetup.perform true r).disk :=
  (stored.listed.ends stored.kept.backed (Platform.legible_of_unlimited rfl)).accepts accepts

theorem known_cold : ∀ e ∈ collections [cold], Known e := by
  intro e mem
  have files : e = (cold.disk, "a.php") ∨ e = (cold.disk, "b.php") := by simpa [collections, cold] using mem
  rcases files with rfl | rfl
  · exact ⟨base, by simp [sources], rfl, rfl⟩
  · exact ⟨draft, by simp [sources], rfl, rfl⟩

theorem stored_cold : Stored sampleSetup [] cold.disk := stored_of_missing rfl

theorem written_cold :
    (sampleSetup.perform true cold).unwritten = [] ∧ sampleSetup.Accepts (sampleSetup.perform true cold).disk :=
  accepts_perform stored_cold (accepts_write (by simp [sources]) accepts_empty)

theorem stored_warm : Stored sampleSetup (collections [cold]) warm.disk := by
  obtain ⟨-, -, -, stored⟩ := stored_cold.perform (lawful_of_known known_cold) (List.nil_subset _)
    (fun file mem => mem_collections (by simp) mem) written_cold.1
  exact stored.congr fun n own => get?_write_place (by simp [sources]) _ own

theorem entry_base : warm.disk.get? (sampleSetup.path "a.php") = some base.entry := by
  have ends := stored_cold.listed.ends stored_cold.kept.backed (lawful_of_known known_cold).legible
  have given : base ∈ nameless :: sources := by simp [sources]
  rw [warm, write, List.foldl_cons, List.foldl_nil, Disk.get?_put_of_ne _ (by decide)]
  exact (outside given cold.disk).entry_eq ends.sameBut

theorem entry_final : warm.disk.get? (sampleSetup.path "b.php") = some final.entry := Disk.get?_put_self _ (by decide) rfl

theorem known : ∀ e ∈ collections [cold, warm], Known e := by
  intro e mem
  have files : e ∈ collections [cold] ∨ e = (warm.disk, "b.php") ∨ e = (warm.disk, "a.php") := by
    simpa [collections, warm] using mem
  rcases files with old | rfl | rfl
  · exact known_cold e old
  · exact ⟨final, by simp [sources], rfl, entry_final⟩
  · exact ⟨base, by simp [sources], rfl, entry_base⟩

theorem history : History sampleSetup [cold, warm] where
  lawful := lawful_of_known known
  fresh := fun r first => by
    obtain rfl : cold = r := by simpa using first
    rfl
  alone := List.isChain_pair.2 fun n own => get?_write_place (by simp [sources]) _ own
  written := by
    obtain ⟨written, accepts⟩ := written_cold
    have after := accepts_perform stored_warm (accepts_write (by simp [sources]) accepts)
    simp [written, after.1]

end Edited

namespace Edited

/-- A run over one file. -/
def first : Run where
  disk := write {} [base]
  now := Decimal.ofInt 3
  stamp := ""
  files := ["a.php"]

/-- The same place, where no name of a file is text. -/
def unnamed : Setup := { sampleSetup with platform := { samplePlatform with pathBytes := fun _ => none } }

/-- A run after a change that does not come to its end. -/
def halted : Run where
  disk := write (sampleSetup.perform true first).disk [edited, nameless]
  now := Decimal.ofInt 4
  stamp := ""
  files := ["a.php", "z.php"]

/-- A run that takes the directory of the cache for a file. -/
def own : Run := { first with files := ["a.php", ".cache"] }

end Edited

end DeadCode
