import DeadCode.Proofs.CacheSteps

/-!
# A cache that was filled in another encoding

The fingerprint of a file says nothing of the encoding in which the file was read. So a run that finds the cache of a run
in another encoding gives, for each unchanged file, what that run has collected, and only the other files are read in the
encoding that is configured now (`collect_of_changed_encoding`). The cache may be as any runs before have left it (`Left`).

What is said of fingerprints and data files does not depend on the encoding, so that it goes over from one run to the next;
`Tracks` follows the answer of the cache for one file through the steps of a run.
-/

namespace DeadCode
set_option autoImplicit false

theorem Collected.reloaded_reloaded (c : Collected) : c.reloaded.reloaded = c.reloaded := by
  have again : ∀ r : Reference, r.reloaded.reloaded = r.reloaded := fun r => by
    simp only [Reference.reloaded, Option.filter_filter, Bool.and_self]
  simp only [reloaded, List.map_map, Function.comp_def, again]

namespace Setup

variable {S : Setup} {encoding : String} {prints prints' : String → Option String} {d d' : Disk} {file : String}

/-- What a run makes of a file after it has gathered others. -/
def collect (S : Setup) (enabled : Bool) (r : Run) (gathered : List String) (file : String) : Except GatherError Gathered :=
  match Cache.start S.platform S.directory enabled r.stamp r.disk S.here with
  | (_, _, _, .error e) => .error (.cache e)
  | (c, d, _, .ok _) =>
    match c.gatherAll (S.moment r) S.encoding d gathered with
    | (_, _, .error e) => .error e
    | (d, _, .ok (c, _)) => (c.gather (S.moment r) S.encoding d file).2.2.map (·.2)

section Answer

variable {files : List String} {lines : List LogLine} {g : Gathered} {gs : List (String × Gathered)}
  {a : Option Collected} {other : String}

/-- The answer depends on the fingerprint that is known, the file and its data file. -/
theorem Answers.congr (answers : S.Answers prints d file a) (known : prints' file = prints file)
    (print : S.print d' file = S.print d file)
    (data : d'.get? (S.place (S.blob file)) = d.get? (S.place (S.blob file))) : S.Answers prints' d' file a := by
  cases a with
  | none =>
    rw [Answers, Misses, known, print]
    exact answers
  | some content =>
    obtain ⟨p, kept, told, same, stored, back⟩ := answers
    exact ⟨p, kept, known.trans told, print.trans same, stored.of_entry data, back⟩

theorem Answers.reloaded {content : Collected} (answers : S.Answers prints d file (some content)) :
    content.reloaded = content := by
  obtain ⟨p, kept, known, same, stored, rfl⟩ := answers
  exact kept.reloaded_reloaded

/-- Gathering another file does not change the answer. -/
theorem Step.answers_of_ne (step : S.Step prints d other prints' d' lines g) (apart : S.blob other ≠ S.blob file)
    (outside : S.Outside d file) (answers : S.Answers prints d file a) : S.Answers prints' d' file a := by
  have known : prints' file = prints file := by
    cases step with
    | hit => rfl
    | failed => rfl
    | kept => exact Function.update_of_ne (fun eq => apart (by rw [eq])) _ _
    | unwritten => rfl
  exact answers.congr known (outside.print_eq (sameBut_of_blob step.sameBut))
    (step.sameBut.entry_in (S.names_place (S.owns_blob file)) (Ne.symm apart))

/-- Gathering the file: the answer is given if there is one. Otherwise the file is parsed, and from then on the cache has
what was found. -/
theorem Step.answers_self (step : S.Step prints d file prints' d' lines g) (outside : S.Outside d file)
    (answers : S.Answers prints d file a) :
    (∃ content, a = some content ∧ g = .found content ∧ content.reloaded = content ∧ S.Answers prints' d' file a) ∨
      (a = none ∧ S.parsed d file = .ok g ∧
        (lines = [] → S.Answers prints' d' file (g.content?.map Collected.reloaded))) := by
  cases a with
  | none =>
    refine Or.inr ⟨rfl, ?_⟩
    cases step with
    | hit content answer => exact absurd answers answer.not_misses
    | failed why missed parsed => exact ⟨parsed, fun _ => answers⟩
    | kept p content d' missed parsed print changes stored =>
      refine ⟨parsed, fun _ => ⟨p, content, Function.update_self _ _ _, ?_, stored, rfl⟩⟩
      rw [outside.print_eq (sameBut_of_blob changes), print]
    | unwritten content line missed parsed barred => exact ⟨parsed, fun silent => by cases silent⟩
  | some content =>
    refine Or.inl ⟨content, rfl, ?_⟩
    cases step with
    | hit content' answer =>
      obtain ⟨p, kept, -, -, stored, rfl⟩ := answer
      obtain rfl := answers.unique stored
      exact ⟨rfl, answers.reloaded, answers⟩
    | failed why missed => exact absurd missed answers.not_misses
    | kept p content d' missed => exact absurd missed answers.not_misses
    | unwritten content line missed => exact absurd missed answers.not_misses

/-- How the answers for a file before and after some files were gathered go with what was gathered. -/
structure Tracks (file : String) (files : List String) (gs : List (String × Gathered)) (a a' : Option Collected) : Prop where
  stays : ∀ content, a = some content → a' = some content
  found : ∀ content, (file, .found content) ∈ gs → a' = some content.reloaded
  lacking : (∀ content, (file, .found content) ∉ gs) → a' = a ∧ (file ∈ files → a = none)

theorem Tracks.cons_of_ne {a' : Option Collected} (tracks : Tracks file files gs a a') (apart : other ≠ file) (g : Gathered) :
    Tracks file (other :: files) ((other, g) :: gs) a a' where
  stays := tracks.stays
  found := fun content mem => by
    refine tracks.found content ((List.mem_cons.1 mem).resolve_left fun eq => ?_)
    exact apart (Prod.mk.inj eq).1.symm
  lacking := fun none => by
    obtain ⟨same, unknown⟩ := tracks.lacking fun content mem => none content (List.mem_cons_of_mem _ mem)
    exact ⟨same, fun mem => unknown ((List.mem_cons.1 mem).resolve_left fun eq => apart eq.symm)⟩

/-- What is gathered from a file, the cache has from then on. -/
theorem Steps.answers (steps : S.Steps prints d files prints' d' lines gs)
    (blobs : ∀ f ∈ files, S.blob f = S.blob file → f = file) (told : file ∈ files → lines = [])
    (outside : S.Outside d file) (answers : S.Answers prints d file a) :
    ∃ a', S.Answers prints' d' file a' ∧ Tracks file files gs a a' := by
  induction steps generalizing a with
  | nil => exact ⟨a, answers, fun _ eq => eq, nofun, fun _ => ⟨rfl, nofun⟩⟩
  | @cons prints prints₁ prints₂ d d₁ d₂ f files lines more g gs first rest ih =>
    have blobs' := fun x mem => blobs x (List.mem_cons_of_mem f mem)
    have told' : file ∈ files → more = [] := fun mem =>
      (List.append_eq_nil_iff.1 (told (List.mem_cons_of_mem f mem))).2
    have outside' := outside.step (sameBut_of_blob first.sameBut)
    by_cases own : f = file
    · obtain rfl := own
      -- The file may come again later. Then the cache answers, with what it has from now on.
      rcases first.answers_self outside answers with ⟨content, rfl, rfl, idem, after⟩ | ⟨rfl, parsed, after⟩
      · obtain ⟨a', answers', tracks⟩ := ih blobs' told' outside' after
        have last : a' = some content := tracks.stays content rfl
        refine ⟨a', answers', tracks.stays, fun found mem => ?_, fun none => absurd List.mem_cons_self (none content)⟩
        rcases List.mem_cons.1 mem with same | later
        · obtain ⟨-, eq⟩ := Prod.mk.inj same
          rw [last, Gathered.found.inj eq, idem]
        · exact tracks.found found later
      · have silent : lines = [] := (List.append_eq_nil_iff.1 (told List.mem_cons_self)).1
        obtain ⟨a', answers', tracks⟩ := ih blobs' told' outside' (after silent)
        refine ⟨a', answers', nofun, fun found mem => ?_, fun none => ⟨?_, fun _ => rfl⟩⟩
        · rcases List.mem_cons.1 mem with same | later
          · obtain ⟨-, rfl⟩ := Prod.mk.inj same
            exact tracks.stays found.reloaded rfl
          · exact tracks.found found later
        · cases g with
          | found content => exact absurd List.mem_cons_self (none content)
          | failed why => exact (tracks.lacking fun content mem => none content (List.mem_cons_of_mem _ mem)).1
    · have apart : S.blob f ≠ S.blob file := fun eq => own (blobs f List.mem_cons_self eq)
      obtain ⟨a', answers', tracks⟩ := ih blobs' told' outside' (first.answers_of_ne apart outside answers)
      exact ⟨a', answers', tracks.cons_of_ne own g⟩

end Answer

section Runs

variable {r : Run}

/-- What a run can find: a manifest with a data file for each of its files, or none. -/
def Stocked (S : Setup) (d : Disk) : Prop := ∃ prints, S.Listed prints d ∧ S.Backed prints d

/-- The disks on which the cache is as runs in any encodings have left it, whether they could write everything or not and
wherever they ended. Nothing else writes its files. -/
inductive Left (S : Setup) : Disk → Prop
  | new {d : Disk} (missing : d.get? (S.place "manifest.json") = none) : Left S d
  | run (encoding : String) {r : Run} (before : Left S r.disk) : Left S ((S.withEncoding encoding).perform true r).disk
  | others {d d' : Disk} (before : Left S d)
      (alone : ∀ n, Cache.Owns n → d'.get? (S.place n) = d.get? (S.place n)) : Left S d'

/-- A whole run, wherever it ends. -/
theorem Stocked.perform (legible : S.platform.Legible) (stocked : S.Stocked r.disk) : S.Stocked (S.perform true r).disk := by
  obtain ⟨prints, listed, backed⟩ := stocked
  have ends := listed.ends backed legible
  revert ends
  generalize S.perform true r = outcome
  intro ends
  cases ends with
  | halted files steps halts => exact ⟨prints, steps.listed listed, steps.still_backed backed⟩
  | saved steps changes gone listed' => exact ⟨_, listed', (steps.backed backed).of_sameBut changes S.blob_not_manifest⟩
  | unsaved steps changes barred told =>
    -- The new manifest got no further than its draft, so the old one stands beside data files that may be newer.
    exact ⟨prints, (steps.listed listed).of_entry (changes.entry_in (S.names_place .manifest) (by decide)),
      (steps.still_backed backed).of_sameBut changes fun file draft => S.blob_not_manifest file (Or.inl draft)⟩

theorem Left.stocked (legible : S.platform.Legible) (left : S.Left d) : S.Stocked d := by
  induction left with
  | new missing => exact ⟨_, Or.inl ⟨missing, rfl⟩, nofun⟩
  | run encoding before ih => exact Stocked.perform (S := S.withEncoding encoding) legible ih
  | others before alone ih =>
    obtain ⟨prints, listed, backed⟩ := ih
    exact ⟨prints, listed.of_entry (alone _ .manifest), backed.of_stores fun file kept stored =>
      ⟨kept, stored.of_entry (alone _ (S.owns_blob file))⟩⟩

end Runs

section Collection

variable {c : Cache} {r : Run} {gathered : List String}

/-- Without the cache a file is parsed. -/
theorem collect_disabled (readable : ∀ f ∈ gathered, ∃ g, S.parsed r.disk f = .ok g) (file : String) :
    S.collect false r gathered file = (S.parsed r.disk file).mapError .source := by
  obtain ⟨c, opened, off⟩ := Cache.start_of_disabled S.platform S.directory r.stamp r.disk S.here
  have all : ∃ gs, List.Forall₂ (fun f (g : String × Gathered) => g.1 = f ∧ S.parsed r.disk f = .ok g.2) gathered gs := by
    induction gathered with
    | nil => exact ⟨[], .nil⟩
    | cons f gathered ih =>
      obtain ⟨gs, rest⟩ := ih fun x mem => readable x (List.mem_cons_of_mem f mem)
      obtain ⟨g, parsed⟩ := readable f List.mem_cons_self
      exact ⟨(f, g) :: gs, .cons ⟨rfl, parsed⟩ rest⟩
  obtain ⟨gs, each⟩ := all
  have done : c.gatherAll (S.moment r) S.encoding r.disk gathered = (r.disk, [], .ok (c, gs)) :=
    Cache.gatherAll_of_disabled off each
  rw [collect, opened]
  simp only [done]
  cases parsed : S.parsed r.disk file with
  | ok g =>
    rw [Cache.gather_of_disabled (m := S.moment r) off parsed]
    rfl
  | error e =>
    have missed : c.get r.disk (S.moment r).here file = .ok (c, none) := by simp [Cache.get, off]
    rw [Cache.gather_of_error (m := S.moment r) missed parsed]
    rfl

/-- With the cache, the answer of the cache comes first. -/
theorem collect_enabled {a : Option Collected} (legible : S.platform.Legible) (listed : S.Listed prints r.disk)
    (backed : S.Backed prints r.disk) (readable : ∀ f ∈ gathered, ∃ g, S.parsed r.disk f = .ok g)
    (text : ∀ f ∈ file :: gathered, S.platform.pathBytes f ≠ none)
    (outside : ∀ f ∈ file :: gathered, S.Outside r.disk f) (first : file ∉ gathered)
    (blobs : ∀ f ∈ gathered, S.blob f = S.blob file → f = file) (answers : S.Answers prints r.disk file a) :
    S.collect true r gathered file =
      a.elim ((S.parsed r.disk file).mapError .source) fun content => .ok (.found content) := by
  obtain ⟨c, lines, opened, ready⟩ := listed.start backed legible
  have own := outside file List.mem_cons_self
  rw [collect, opened]
  rcases ready.gatherAll legible r gathered with ⟨_, f, _, _, d, _, _, e, rfl, steps, halts, -⟩ |
    ⟨prints', d, lines', c', gs, done, steps, ready'⟩
  · -- The files before can all be read, and what was written meanwhile did not change that.
    cases halts with
    | source e missed parsed =>
      obtain ⟨g, read⟩ := readable f (by simp)
      rw [(outside f (by simp)).parsed_eq steps.sameBut_owns, read] at parsed
      cases parsed
    | unnamed content missed parsed unnamed => exact absurd unnamed (text f (by simp))
  · obtain ⟨a', answers', tracks⟩ := steps.answers blobs (fun mem => absurd mem first) own answers
    obtain ⟨rfl, -⟩ := tracks.lacking fun content mem => first (steps.mem_files mem)
    simp only [done]
    rcases ready'.gather legible r file with ⟨e, halts, stopped⟩ | ⟨_, _, _, c'', g, got, step, -⟩
    · rw [stopped]
      cases halts with
      | source e missed parsed =>
        rw [own.parsed_eq steps.sameBut_owns] at parsed
        cases a' with
        | some content => exact absurd missed answers'.not_misses
        | none =>
          rw [parsed]
          rfl
      | unnamed content missed parsed unnamed => exact absurd unnamed (text file List.mem_cons_self)
    · rw [got]
      rcases step.answers_self (own.step steps.sameBut_owns) answers' with ⟨content, rfl, rfl, -⟩ | ⟨rfl, read, -⟩
      · rfl
      · rw [own.parsed_eq steps.sameBut_owns] at read
        rw [read]
        rfl

/-- What the cache has for a file after a run that could write everything. -/
theorem Stocked.answers {gs : List (String × Gathered)} (legible : S.platform.Legible) (stocked : S.Stocked r.disk)
    (results : (S.perform true r).results = .ok gs) (saved : (S.perform true r).unwritten = [])
    (outside : S.Outside r.disk file) (blobs : ∀ f ∈ r.files, S.blob f = S.blob file → f = file) (given : file ∈ r.files) :
    ∃ prints a, S.Listed prints (S.perform true r).disk ∧ S.Backed prints (S.perform true r).disk ∧
      S.Answers prints (S.perform true r).disk file a ∧ S.print (S.perform true r).disk file = S.print r.disk file ∧
      (∀ content, (file, .found content) ∈ gs → a = some content.reloaded) ∧
      ((∀ content, (file, .found content) ∉ gs) → a = none) := by
  obtain ⟨prints, listed, backed⟩ := stocked
  have ends := listed.ends backed legible
  revert ends results saved
  generalize S.perform true r = outcome
  intro results saved ends
  have print := outside.print_eq ends.sameBut
  cases ends with
  | halted files steps halts => cases results
  | unsaved steps changes barred told => exact absurd (List.append_eq_nil_iff.1 saved).2 told
  | saved steps changes gone listed' =>
    cases results
    obtain ⟨a, answers⟩ := exists_answers backed file
    obtain ⟨a', answers', tracks⟩ := steps.answers blobs (fun _ => saved) outside answers
    have after := answers'.congr rfl (print.trans (outside.print_eq steps.sameBut_owns).symm)
      (changes.entry_in (S.names_place (S.owns_blob file)) (S.blob_not_manifest file))
    refine ⟨_, a', listed', (steps.backed backed).of_sameBut changes S.blob_not_manifest, after, print, tracks.found,
      fun none => ?_⟩
    obtain ⟨same, unknown⟩ := tracks.lacking none
    rw [same, unknown given]

/-- A run in the encoding `e₁` has saved its cache, and a run in `e₂` that finds it comes to a file after some others. -/
structure Switched (S : Setup) (e₁ e₂ : String) (r₁ r₂ : Run) (gs : List (String × Gathered)) (gathered : List String)
    (file : String) : Prop where
  /-- What is written can be read. -/
  legible : S.platform.Legible
  /-- Only runs have written the files of the cache before. -/
  left : S.Left r₁.disk
  /-- The first run came to its end. -/
  results : ((S.withEncoding e₁).perform true r₁).results = .ok gs
  /-- Everything that it had to write could be written. -/
  saved : ((S.withEncoding e₁).perform true r₁).unwritten = []
  /-- Nothing else has written the files of the cache since. -/
  alone : ∀ n, Cache.Owns n →
    r₂.disk.get? (S.place n) = Disk.get? ((S.withEncoding e₁).perform true r₁).disk (S.place n)
  /-- The file is one of the first run and has not changed. -/
  given : file ∈ r₁.files
  unchanged : r₂.disk.get? (S.path file) = r₁.disk.get? (S.path file)
  /-- The second run has not come to it yet, and no file has stopped the run. -/
  first : file ∉ gathered
  readable : ∀ f ∈ gathered, ∃ g, (S.withEncoding e₂).parsed r₂.disk f = .ok g
  /-- The names of files are text, and the data file of this one is that of no other. -/
  text : ∀ f ∈ file :: gathered, S.platform.pathBytes f ≠ none
  blobs : ∀ f ∈ r₁.files ++ gathered, S.blob f = S.blob file → f = file
  /-- No file is one of those that the cache writes or makes directories for. -/
  outside₁ : S.Outside r₁.disk file
  outside₂ : ∀ f ∈ file :: gathered, S.Outside r₂.disk f

section Switching

variable {e₁ e₂ : String} {r₁ r₂ : Run} {gs : List (String × Gathered)}

/-- The second run takes the answer that the first one has left, if there is one. -/
theorem Switched.collect_eq (switched : S.Switched e₁ e₂ r₁ r₂ gs gathered file) :
    ∃ a : Option Collected, (∀ content, (file, .found content) ∈ gs → a = some content.reloaded) ∧
      ((∀ content, (file, .found content) ∉ gs) → a = none) ∧
      (S.withEncoding e₂).collect true r₂ gathered file =
        a.elim (((S.withEncoding e₂).parsed r₂.disk file).mapError .source) fun content => .ok (.found content) := by
  obtain ⟨legible, left, results, saved, alone, given, unchanged, first, readable, text, blobs, outside₁, outside₂⟩ := switched
  obtain ⟨blobs₁, blobs₂⟩ := List.forall_mem_append.1 blobs
  have stocked : S.Stocked r₁.disk := left.stocked legible
  obtain ⟨prints, a, listed, backed, answers, print, found, lacking⟩ :=
    Stocked.answers (S := S.withEncoding e₁) legible stocked results saved ⟨outside₁.apart, outside₁.there⟩ blobs₁ given
  -- What the second run finds: the files of the cache as they were left, and the file as it was.
  have listed₂ : S.Listed prints r₂.disk := Listed.of_entry (S := S) listed (alone _ .manifest)
  have backed₂ : S.Backed prints r₂.disk := Backed.of_stores (S := S) backed fun f kept stored =>
    ⟨kept, stored.of_entry (alone _ (S.owns_blob f))⟩
  have answers₂ : S.Answers prints r₂.disk file a :=
    Answers.congr (S := S) answers rfl ((print_congr unchanged).trans print.symm) (alone _ (S.owns_blob file))
  exact ⟨a, found, lacking, collect_enabled (S := S.withEncoding e₂) legible listed₂ backed₂ readable text
    (fun f mem => ⟨(outside₂ f mem).apart, (outside₂ f mem).there⟩) first blobs₂ answers₂⟩

/-- **A changed encoding goes unnoticed.** An unchanged file that the first run has collected comes out of the second one as
the first one collected it, read back from its data form. Any other file comes out as without the cache, in the new
encoding. -/
theorem collect_of_changed_encoding (switched : S.Switched e₁ e₂ r₁ r₂ gs gathered file) :
    (∀ content, (file, .found content) ∈ gs →
        (S.withEncoding e₂).collect true r₂ gathered file = .ok (.found content.reloaded)) ∧
      ((∀ content, (file, .found content) ∉ gs) →
        (S.withEncoding e₂).collect true r₂ gathered file = (S.withEncoding e₂).collect false r₂ gathered file) ∧
      (S.withEncoding e₂).collect false r₂ gathered file =
        ((S.withEncoding e₂).parsed r₂.disk file).mapError .source := by
  obtain ⟨a, found, lacking, cached⟩ := switched.collect_eq
  have uncached := collect_disabled switched.readable file
  refine ⟨fun content mem => ?_, fun none => ?_, uncached⟩
  · rw [cached, found content mem, Option.elim_some]
  · rw [cached, uncached, lacking none, Option.elim_none]

end Switching

end Collection

end Setup

namespace Accented

/-- A file with a byte that is no ASCII. -/
def entry : Entry := .file (Utf8.encode "Caf" ++ [0xe9]) (Decimal.ofInt 1)

/-- The run in Latin-1. -/
def latinRun : Run where
  disk := { entries := [(["app", "a.php"], entry)] }
  now := Decimal.ofInt 2
  stamp := ""
  files := ["a.php"]

/-- The run in ASCII that finds its cache. The file was saved again as it was. -/
def asciiRun : Run where
  disk := ((sampleSetup.withEncoding "latin-1").perform true latinRun).disk.put (sampleSetup.path "a.php") entry
  now := Decimal.ofInt 3
  stamp := ""
  files := ["a.php"]

theorem outside (d : Disk) : sampleSetup.Outside d "a.php" where
  apart := fun n _ inside => absurd ((List.prefix_append sampleSetup.root [n]).trans inside) (by decide)
  there := fun above => absurd above (by decide)

theorem latin_collected : ∃ gs content, ((sampleSetup.withEncoding "latin-1").perform true latinRun).results = .ok gs ∧
    ("a.php", .found content) ∈ gs ∧ content.symbols.map (·.name) = ["Café"] := by
  have ended : (((sampleSetup.withEncoding "latin-1").perform true latinRun).results.toOption.map fun gs =>
      gs.map fun g => (g.1, g.2.content?.map fun c => c.symbols.map (·.name))) = some [("a.php", some ["Café"])] := by
    decide +kernel
  cases run : ((sampleSetup.withEncoding "latin-1").perform true latinRun).results with
  | error e =>
    rw [run] at ended
    cases ended
  | ok gs =>
    rw [run] at ended
    have names : gs.map (fun g => (g.1, g.2.content?.map fun c => c.symbols.map (·.name))) = [("a.php", some ["Café"])] :=
      Option.some.inj ended
    obtain ⟨⟨f, g⟩, mem, eq⟩ := List.mem_map.1 (names ▸ List.mem_cons_self)
    obtain ⟨rfl, held⟩ := Prod.mk.inj eq
    cases g with
    | failed why => cases held
    | found content => exact ⟨gs, content, rfl, mem, Option.some.inj held⟩

theorem entry_ascii : asciiRun.disk.get? (sampleSetup.path "a.php") = some entry := Disk.get?_put_self _ (by decide) rfl

theorem switched {gs : List (String × Gathered)}
    (results : ((sampleSetup.withEncoding "latin-1").perform true latinRun).results = .ok gs) :
    sampleSetup.Switched "latin-1" "ascii" latinRun asciiRun gs [] "a.php" where
  legible := Platform.legible_of_unlimited rfl
  left := .new rfl
  results := results
  saved := List.length_eq_zero_iff.1 (by decide +kernel)
  alone := fun n own => by
    refine Disk.get?_put_of_ne _ fun eq => ?_
    rw [sampleSetup.names_place own] at eq
    exact absurd (eq ▸ List.prefix_append sampleSetup.root [n]) (by decide)
  given := List.mem_cons_self
  unchanged := entry_ascii
  first := List.not_mem_nil
  readable := nofun
  text := fun _ _ => Option.some_ne_none _
  blobs := by simp [latinRun]
  outside₁ := outside _
  outside₂ := by simp [outside]

/-- The names of what was collected from a file; none from one that cannot be read, and nothing if the run stops. -/
def namesIn (g : Except GatherError Gathered) : Option (Option (List String)) :=
  g.toOption.map fun g => g.content?.map fun c => c.symbols.map (·.name)

end Accented

namespace Setup

open Accented

/-- The run in ASCII gives what the run in Latin-1 has collected. -/
theorem collect_of_changed_encoding_accented :
    ∃ gs content, ((sampleSetup.withEncoding "latin-1").perform true latinRun).results = .ok gs ∧
      ("a.php", .found content) ∈ gs ∧ content.symbols.map (·.name) = ["Café"] ∧
      (sampleSetup.withEncoding "ascii").collect true asciiRun [] "a.php" = .ok (.found content.reloaded) := by
  obtain ⟨gs, content, results, mem, names⟩ := latin_collected
  exact ⟨gs, content, results, mem, names, (collect_of_changed_encoding (switched results)).1 content mem⟩

/-- Without the cache the run in ASCII cannot read the file, and with it the class is collected. -/
theorem collect_accented_differs :
    namesIn ((sampleSetup.withEncoding "ascii").collect false asciiRun [] "a.php") = some none ∧
      namesIn ((sampleSetup.withEncoding "ascii").collect true asciiRun [] "a.php") = some (some ["Café"]) := by
  obtain ⟨gs, content, results, mem, names⟩ := latin_collected
  obtain ⟨a, found, -, cached⟩ := (switched results).collect_eq
  constructor
  · have parsed := parsed_of_entry (S := sampleSetup.withEncoding "ascii") entry_ascii (by decide)
    rw [collect_disabled (switched results).readable, parsed]
    decide +kernel
  · rw [cached, found content mem]
    exact congrArg (fun ns => some (some ns)) names

end Setup
end DeadCode
