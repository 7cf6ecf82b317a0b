import DeadCode.Project.Gather
import DeadCode.Proofs.ClassScopes
import DeadCode.Proofs.Manifest

/-!
# Runs over a project

A run opens the cache, gathers files and writes the manifest (`Setup.perform`). For a history of runs, `Setup.lastPrint` is
the fingerprint that a file had when it was last collected. Without the cache a run gives what the files hold; what is
collected from a file is the same after it was written as data and read back, if every class has a name.
-/

namespace DeadCode
set_option autoImplicit false

/-- The limits to data leave room for what a run writes: four levels, and the numbers of lines. -/
structure Platform.Legible (p : Platform) : Prop where
  depth : p.limits.Room 4
  digits : ∀ text file, ∀ n ∈ (Gathered.ofTree file (p.tree text)).lines, p.limits.allows n = true

theorem Platform.tree_of_parse {p : Platform} {text : String} {root : Node} (h : p.parse text = .ok root) :
    root = p.tree text := by
  unfold Platform.parse at h
  simp only [bind, Except.bind] at h
  split at h
  · cases h
  · exact (Except.ok.inj h).symm

theorem Gathered.exists_text {p : Platform} {encoding file : String} {bytes : List UInt8} {content : Collected}
    (h : ofBytes p encoding file bytes = .ok (.found content)) : ∃ text, content = ofTree file (p.tree text) := by
  unfold ofBytes at h
  split at h
  · cases h
  · cases h
  · cases h
  · next text _ =>
    split at h
    · cases h
    · next root parsed =>
      cases h
      exact ⟨text, by rw [Platform.tree_of_parse parsed]⟩

theorem Platform.legible_of_unlimited {p : Platform} (unlimited : p.limits = {}) : p.Legible where
  depth := by simp [unlimited, Json.Limits.Room]
  digits := fun _ _ n _ => by simp [unlimited, Json.Limits.allows]

/-- What all runs have in common: what they stand on, the directory at hand, that of the cache and the encoding of the
files. -/
structure Setup where
  platform : Platform
  here : Path
  directory : Path
  encoding : String

/-- A run: the disk that it finds, its time, and the files in the order in which it gathers them. -/
structure Run where
  disk : Disk
  now : Decimal
  stamp : String
  files : List String

/-- What a run leaves behind: the disk, the lines about what could not be written, and what the files hold. -/
structure Outcome where
  disk : Disk
  unwritten : List LogLine
  results : Except GatherError (List (String × Gathered))

/-- The file collections of some runs, in order, each with the disk that its run found. -/
def collections (runs : List Run) : List (Disk × String) := runs.flatMap fun r => r.files.map (r.disk, ·)

namespace Setup

variable (S : Setup)

/-- Where a file is. -/
def path (file : String) : Path := S.here.resolve (Path.ofString file)

/-- Where the cache is. -/
def root : List String := (S.here.resolve S.directory).names

/-- Where a file of the cache is. -/
def place (n : String) : Path := S.here.resolve (S.directory.below n)

/-- The name of the data file of a file. -/
def blob (file : String) : String := Cache.blobOf S.platform file

/-- The same place, with files in another encoding. -/
def withEncoding (encoding : String) : Setup := { S with encoding }

/-- What a file holds, by parsing it. -/
def parsed (d : Disk) (file : String) : Except SourceError Gathered :=
  Gathered.ofFile S.platform S.encoding d S.here file

/-- The fingerprint of a file. -/
def print (d : Disk) (file : String) : Option String := ((Cache.fingerprint S.platform d S.here file).toOption).join

/-- Can the file be collected? -/
def collects (d : Disk) (file : String) : Bool :=
  match S.parsed d file with
  | .ok (.found _) => true
  | _ => false

/-- The fingerprint that a file had when it was last collected. -/
def lastPrint (past : List (Disk × String)) (file : String) : Option String :=
  ((past.filter fun e => e.2 == file && S.collects e.1 e.2).getLast?).bind fun e => S.print e.1 e.2

/-- The moment of a run. -/
def moment (r : Run) : Moment := ⟨S.here, r.now, r.stamp, S.platform⟩

/-- A run with the cache or without it: the cache is opened, the files are gathered, and the manifest is written. -/
def perform (enabled : Bool) (r : Run) : Outcome :=
  match Cache.start S.platform S.directory enabled r.stamp r.disk S.here with
  | (_, d, _, .error e) => ⟨d, [], .error (.cache e)⟩
  | (c, d, _, .ok _) =>
    match c.gatherAll (S.moment r) S.encoding d r.files with
    | (d, lines, .error e) => ⟨d, lines, .error e⟩
    | (d, lines, .ok (c, found)) =>
      let (d, more) := c.save d S.here r.now
      ⟨d, lines ++ more, .ok found⟩

end Setup

theorem collections_append (before after : List Run) :
    collections (before ++ after) = collections before ++ collections after := List.flatMap_append

theorem collections_cons (r : Run) (runs : List Run) : collections (r :: runs) = r.files.map (r.disk, ·) ++ collections runs :=
  List.flatMap_cons

theorem mem_collections {runs : List Run} {r : Run} {file : String} (run : r ∈ runs) (mem : file ∈ r.files) :
    (r.disk, file) ∈ collections runs :=
  List.mem_flatMap.2 ⟨r, run, List.mem_map_of_mem mem⟩

theorem collections_subset (before after : List Run) : collections before ⊆ collections (before ++ after) := by
  rw [collections_append]
  exact List.subset_append_left _ _

namespace Cache

variable {c c' : Cache} {m : Moment} {encoding : String} {d d' : Disk} {file : String} {files : List String}

theorem gather_of_hit {loaded : Loaded} {content : Collected} (hit : c.get d m.here file = .ok (c', some loaded))
    (typed : loaded.content = .ok content) : c.gather m encoding d file = (d, [], .ok (c', .found content)) := by
  unfold gather
  rw [hit]
  simp only [typed]

theorem gather_of_error {e : SourceError} (missed : c.get d m.here file = .ok (c', none))
    (failed : Gathered.ofFile m.platform encoding d m.here file = .error e) :
    c.gather m encoding d file = (d, [], .error (.source e)) := by
  unfold gather
  rw [missed]
  simp only [failed]

theorem gather_of_failed {why : Failure} (missed : c.get d m.here file = .ok (c', none))
    (failed : Gathered.ofFile m.platform encoding d m.here file = .ok (.failed why)) :
    c.gather m encoding d file = (d, [], .ok (c', .failed why)) := by
  unfold gather
  rw [missed]
  simp only [failed]

theorem gather_of_parsed {content : Collected} (missed : c.get d m.here file = .ok (c', none))
    (parsed : Gathered.ofFile m.platform encoding d m.here file = .ok (.found content)) :
    c.gather m encoding d file = ((c'.set d m.here m.now file content.toJson).1, (c'.set d m.here m.now file content.toJson).2.1,
      match (c'.set d m.here m.now file content.toJson).2.2 with
      | .error e => .error (.cache e)
      | .ok c => .ok (c, .found content)) := by
  unfold gather
  rw [missed]
  simp only [parsed]
  rcases c'.set d m.here m.now file content.toJson with ⟨d', lines, e | c''⟩ <;> rfl

theorem start_of_disabled (platform : Platform) (directory : Path) (stamp : String) (d : Disk) (here : Path) :
    ∃ c, start platform directory false stamp d here = (c, d, [], .ok ()) ∧ c.enabled = false :=
  ⟨_, rfl, rfl⟩

theorem gather_of_disabled {g : Gathered} (off : c.enabled = false)
    (parsed : Gathered.ofFile m.platform encoding d m.here file = .ok g) : c.gather m encoding d file = (d, [], .ok (c, g)) := by
  have missed : c.get d m.here file = .ok (c, none) := by simp [get, off]
  cases g with
  | failed why => exact gather_of_failed missed parsed
  | found content =>
    have unwritten : c.set d m.here m.now file content.toJson = (d, [], .ok c) := by simp [set, off]
    rw [gather_of_parsed missed parsed, unwritten]

theorem gatherAll_cons {lines : List LogLine} {g : Gathered} (done : c.gather m encoding d file = (d', lines, .ok (c', g))) :
    c.gatherAll m encoding d (file :: files) =
      ((c'.gatherAll m encoding d' files).1, lines ++ (c'.gatherAll m encoding d' files).2.1,
        (c'.gatherAll m encoding d' files).2.2.map fun rest => (rest.1, (file, g) :: rest.2)) := by
  simp only [gatherAll, done]
  rcases c'.gatherAll m encoding d' files with ⟨d'', more, e | ⟨c'', gs⟩⟩ <;> rfl

theorem gatherAll_of_disabled {gs : List (String × Gathered)} (off : c.enabled = false)
    (each : List.Forall₂ (fun file g => g.1 = file ∧ Gathered.ofFile m.platform encoding d m.here file = .ok g.2) files gs) :
    c.gatherAll m encoding d files = (d, [], .ok (c, gs)) := by
  induction each with
  | nil => rfl
  | cons first rest ih =>
    obtain ⟨rfl, parsed⟩ := first
    rw [gatherAll_cons (gather_of_disabled off parsed), ih]
    rfl

end Cache

namespace Setup

variable {S : Setup} {d d' : Disk} {file : String} {past : List (Disk × String)} {content : Collected}

theorem collects_iff : S.collects d file = true ↔ ∃ content, S.parsed d file = .ok (.found content) := by
  unfold collects
  split
  · next content eq => simp [eq]
  · next other => simpa using other

theorem lastPrint_concat (e : Disk × String) : S.lastPrint (past ++ [e]) file =
    if e.2 = file ∧ S.collects e.1 e.2 = true then S.print e.1 e.2 else S.lastPrint past file := by
  by_cases last : e.2 = file ∧ S.collects e.1 e.2 = true
  · obtain ⟨rfl, collected⟩ := last
    simp [lastPrint, List.filter_append, collected]
  · have kept : (e.2 == file && S.collects e.1 e.2) = false := by simpa using last
    simp [lastPrint, List.filter_append, last, kept]

theorem lastPrint_of_collects (h : S.collects d file = true) :
    S.lastPrint (past ++ [(d, file)]) = Function.update (S.lastPrint past) file (S.print d file) := by
  funext f
  rw [lastPrint_concat]
  by_cases same : f = file
  · simp [same, h]
  · simp [same, Ne.symm same]

theorem lastPrint_of_not_collects (h : S.collects d file = false) : S.lastPrint (past ++ [(d, file)]) = S.lastPrint past := by
  funext f
  simp [lastPrint_concat, h]

theorem parsed_congr (same : d'.read (S.path file) = d.read (S.path file)) : S.parsed d' file = S.parsed d file := by
  unfold parsed Gathered.ofFile
  rw [path] at same
  rw [same]

theorem print_congr (same : d'.get? (S.path file) = d.get? (S.path file)) : S.print d' file = S.print d file := by
  unfold print Cache.fingerprint
  rw [path] at same
  rw [same]

theorem print_eq_some {p : String} : S.print d file = some p ↔ Cache.fingerprint S.platform d S.here file = .ok (some p) := by
  unfold print
  rcases Cache.fingerprint S.platform d S.here file with e | now <;> simp [Except.toOption]

/-- A path that is one has a fingerprint, if only that there is nothing. -/
theorem fingerprint_eq (whole : file.toList.contains '\x00' = false) :
    Cache.fingerprint S.platform d S.here file = .ok (S.print d file) := by
  unfold print Cache.fingerprint
  simp only [whole, Bool.false_eq_true, if_false]
  rcases d.get? (S.here.resolve (Path.ofString file)) with - | ⟨bytes, time⟩ | - <;> rfl

theorem whole_of_print {p : String} (h : S.print d file = some p) : file.toList.contains '\x00' = false := by
  rw [print_eq_some, Cache.fingerprint] at h
  split at h
  · cases h
  · next whole => simpa using whole

theorem parsed_of_entry {bytes : List UInt8} {time : Decimal} (held : d.get? (S.path file) = some (.file bytes time))
    (whole : file.toList.contains '\x00' = false) :
    S.parsed d file = Gathered.ofBytes S.platform S.encoding file bytes := by
  unfold parsed Gathered.ofFile
  rw [path] at held
  simp only [whole, Bool.false_eq_true, if_false, Disk.read, held]

theorem print_of_entry {bytes : List UInt8} {time : Decimal} (held : d.get? (S.path file) = some (.file bytes time))
    (whole : file.toList.contains '\x00' = false) : S.print d file = some (Cache.printOf time bytes.length) := by
  rw [path] at held
  rw [print_eq_some, Cache.fingerprint, whole, held]
  rfl

/-- What is collected comes from a file. -/
theorem exists_entry (h : S.parsed d file = .ok (.found content)) :
    file.toList.contains '\x00' = false ∧ ∃ bytes time, d.get? (S.path file) = some (.file bytes time) ∧
      Gathered.ofBytes S.platform S.encoding file bytes = .ok (.found content) := by
  unfold parsed Gathered.ofFile at h
  split at h
  · cases h
  · next whole =>
    refine ⟨by simpa using whole, ?_⟩
    rw [Disk.read, ← path] at h
    cases held : d.get? (S.path file) with
    | none => simp [held] at h
    | some e =>
      cases e with
      | directory => simp [held] at h
      | file bytes time =>
        rw [held] at h
        exact ⟨bytes, time, rfl, h⟩

theorem exists_print (h : S.parsed d file = .ok (.found content)) : ∃ p, S.print d file = some p := by
  obtain ⟨whole, bytes, time, held, -⟩ := exists_entry h
  exact ⟨_, print_of_entry held whole⟩

theorem exists_text (h : S.parsed d file = .ok (.found content)) :
    ∃ text, content = Gathered.ofTree file (S.platform.tree text) := by
  obtain ⟨-, bytes, -, -, found⟩ := exists_entry h
  exact Gathered.exists_text found

/-- The data form of what was collected from a file can be written and read. -/
theorem plain_of_parsed (legible : S.platform.Legible) (h : S.parsed d file = .ok (.found content)) :
    content.toJson.Plain S.platform.limits := by
  obtain ⟨text, rfl⟩ := exists_text h
  have marks : ∀ mark ∈ Collect.marks, ∀ l : Json.Limits, l.Room 1 → Json.Plain l (.obj mark) := by
    simp only [Collect.marks, List.forall_mem_cons, List.not_mem_nil, false_implies, implies_true, and_true]
    refine ⟨?_, ?_, ?_, ?_⟩ <;>
      exact fun l room => .obj_of_room room (by simp [Json.Plain.bool, Json.Plain.str]) (by simp [Assoc.keys])
  exact Collected.plain_toJson legible.depth (legible.digits text file) fun s mem =>
    marks s.metadata (Collect.metadata_mem_marks mem)

/-- What was collected from a file is the same after it was written and read, if every class has a name. -/
theorem reloaded_of_named (h : S.parsed d file = .ok (.found content))
    (named : ∀ s ∈ content.symbols, s.kind.isClassLike = true → s.name ≠ "") : content.reloaded = content := by
  obtain ⟨text, rfl⟩ := exists_text h
  have same : ∀ r ∈ Collect.references file (S.platform.tree text), r.reloaded = r := fun r mem =>
    Reference.reloaded_of_ne (Collect.enclosing_ne_empty named mem)
  have references : (Collect.references file (S.platform.tree text)).map Reference.reloaded =
      Collect.references file (S.platform.tree text) := by
    rw [List.map_congr_left same, List.map_id']
  simp only [Collected.reloaded, Gathered.ofTree, references]

end Setup

namespace Setup

variable {S : Setup} {r : Run} {enabled : Bool} {c : Cache} {d : Disk} {lines : List LogLine}

theorem perform_of_start (opened : Cache.start S.platform S.directory enabled r.stamp r.disk S.here = (c, d, lines, .ok ())) :
    S.perform enabled r = match c.gatherAll (S.moment r) S.encoding d r.files with
      | (d, lines, .error e) => ⟨d, lines, .error e⟩
      | (d, lines, .ok (c, gs)) => ⟨(c.save d S.here r.now).1, lines ++ (c.save d S.here r.now).2, .ok gs⟩ := by
  simp only [perform, opened]

end Setup

section Samples

/-- A platform on which a source text is the name of a class. -/
def samplePlatform : Platform where
  tree := fun text =>
    let node := fun kind field => Node.mk { kind, text, line := 1, endLine := 1, field }
    node "program" none [node "class_declaration" none [node "name" (some "name") []]]

/-- A project with the cache in it. -/
def sampleSetup : Setup where
  platform := samplePlatform
  here := ⟨.root, ["app"]⟩
  directory := ⟨.here, [".cache"]⟩
  encoding := "auto"

end Samples

end DeadCode
