import DeadCode.Proofs.Manifest

/-!
# Clearing a cache

Clearing goes by names: every file of the directory whose name ends in `.json` is removed, and the draft of the manifest.
`removes_clear` says what stands at each path afterwards. So the files of others are safe exactly if none of them has such
a name (`clear_keepsOthers_iff`), and the same goes for the clearing that a manifest of another version brings about.
-/

namespace DeadCode
set_option autoImplicit false

namespace Text

theorem mem_tails {α : Type} {s t : List α} : t ∈ tails s ↔ t <:+ s := by
  induction s with
  | nil => simp [tails]
  | cons x s ih => rw [tails, List.mem_cons, ih, List.suffix_cons_iff]

theorem takesName_exact {cs s : List Char} : takesName (cs.map .exact) s = true ↔ s = cs := by
  induction cs generalizing s with
  | nil => simp [takesName]
  | cons p cs ih =>
    rw [List.map_cons, takesName]
    cases s with
    | nil => simp [NamePart.rests]
    | cons c s =>
      by_cases same : c = p
      · simp [NamePart.rests, same, ih]
      · simp [NamePart.rests, same]

/-- A star in front of a text that has no special characters asks for names with that ending. -/
theorem matchesName_data (n : String) : matchesName "*.json" n = endsWith n ".json" := by
  have parts : nameParts "*.json".length "*.json".toList = .anyText :: ".json".toList.map .exact := rfl
  rw [Bool.eq_iff_iff, matchesName, parts, takesName, List.any_eq_true, endsWith, List.isSuffixOf_iff_suffix]
  constructor
  · rintro ⟨t, left, taken⟩
    rw [← takesName_exact.1 taken]
    exact mem_tails.1 left
  · intro ending
    exact ⟨_, mem_tails.2 ending, takesName_exact.2 rfl⟩

end Text

instance Path.decidableIsName (n : String) : Decidable (Path.IsName n) :=
  decidable_of_iff (n ≠ "" ∧ n ≠ "." ∧ n ≠ ".." ∧ '/' ∉ n.toList)
    ⟨fun h => ⟨h.1, h.2.1, h.2.2.1, h.2.2.2⟩, fun h => ⟨h.filled, h.notDot, h.notDots, h.noSlash⟩⟩

namespace Disk

variable {d : Disk} {p q : Path}

/-- A disk as there is one: its entries have names and stand in directories. -/
structure Proper (d : Disk) : Prop where
  names : ∀ e ∈ d.entries, ∀ n ∈ e.1, Path.IsName n
  above : ∀ e ∈ d.entries, d.isDirectory ⟨.root, e.1.dropLast⟩ = true

/-- Every file of a directory that has none of the names is on the second disk as it is on the first one. -/
def KeepsOthers (dir : List String) (names : String → Prop) (d d' : Disk) : Prop :=
  ∀ (p : Path) (n : String), p.names = dir ++ [n] → ¬names n → d.isFile p = true → d'.get? p = d.get? p

theorem isFile_iff : d.isFile p = true ↔ ∃ bytes time, d.get? p = some (.file bytes time) := by
  unfold isFile
  cases d.get? p with
  | none => simp
  | some e => cases e <;> simp

theorem mem_keys_of_isFile (file : d.isFile p = true) : p.names ∈ Assoc.keys d.entries := by
  obtain ⟨bytes, time, held⟩ := isFile_iff.1 file
  rw [get?] at held
  split at held
  · cases held
  · exact Assoc.mem_keys_of_get? held

/-- The files at some paths are removed, and nothing else. -/
structure Removes (gone : Path → Prop) (d d' : Disk) : Prop where
  lost : ∀ q : Path, d.isFile q = true → gone q → d'.get? q = none
  kept : ∀ q : Path, (d.isFile q = true → ¬gone q) → d'.get? q = d.get? q

namespace Removes

variable {d' d'' : Disk} {gone gone' : Path → Prop}

theorem refl (none : ∀ q : Path, d.isFile q = true → ¬gone q) : Removes gone d d where
  lost := fun q file given => absurd given (none q file)
  kept := fun _ _ => rfl

theorem congr (same : ∀ q : Path, d.isFile q = true → (gone q ↔ gone' q)) (h : Removes gone d d') :
    Removes gone' d d' where
  lost := fun q file given => h.lost q file ((same q file).2 given)
  kept := fun q other => h.kept q fun file given => other file ((same q file).1 given)

theorem trans (first : Removes gone d d') (second : Removes gone' d' d'') :
    Removes (fun q => gone q ∨ gone' q) d d'' where
  lost := fun q file given => by
    by_cases removed : gone q
    · have none := first.lost q file removed
      rw [second.kept q fun still => by simp [isFile, none] at still, none]
    · have same := first.kept q fun _ => removed
      exact second.lost q (by rw [isFile_congr same]; exact file) (given.resolve_left removed)
  kept := fun q other => by
    have same := first.kept q fun file given => other file (Or.inl given)
    rw [second.kept q fun file given => other (by rwa [isFile_congr same] at file) (Or.inr given), same]

end Removes

/-- A file can be removed, and nothing else can. -/
theorem remove_cases (d : Disk) (p : Path) :
    (∃ d', d.remove p = .ok d' ∧ Removes (fun q => q.names = p.names) d d') ∨
    (∃ e, d.remove p = .error e ∧ Removes (fun q => q.names = p.names) d d) := by
  have other : d.isFile p = false → Removes (fun q => q.names = p.names) d d := fun none =>
    .refl fun q file same => by
      rw [isFile, get?_congr same, ← isFile, none] at file
      cases file
  rw [remove]
  cases held : d.get? p with
  | none => exact Or.inr ⟨_, rfl, other (by rw [isFile, held])⟩
  | some e =>
    cases e with
    | directory => exact Or.inr ⟨_, rfl, other (by rw [isFile, held])⟩
    | file bytes time =>
      have below : p.names ≠ [] := fun root => by simp [get?, root] at held
      refine Or.inl ⟨_, rfl, fun q _ same => get?_drop_self below same, fun q kept => get?_drop_of_ne fun same => ?_⟩
      exact kept (by rw [isFile, get?_congr same, held]) same

theorem mem_below {ns : List String} :
    ns ∈ d.below p ↔ ns ≠ [] ∧ p.names ++ ns ∈ Assoc.keys d.entries := by
  rw [below, List.mem_mergeSort, List.mem_filterMap]
  constructor
  · rintro ⟨e, mem, cut⟩
    split at cut
    · next inside =>
      simp only [Bool.and_eq_true, List.isPrefixOf_iff_prefix, decide_eq_true_eq] at inside
      obtain ⟨⟨rest, whole⟩, longer⟩ := inside
      rw [← whole, List.drop_left] at cut
      obtain rfl := Option.some.inj cut
      refine ⟨fun none => ?_, List.mem_map.2 ⟨e, mem, whole.symm⟩⟩
      rw [← whole, none, List.append_nil] at longer
      omega
    · cases cut
  · rintro ⟨filled, mem⟩
    obtain ⟨e, given, key⟩ := List.mem_map.1 mem
    refine ⟨e, given, ?_⟩
    have some : 0 < ns.length := List.length_pos_iff.2 filled
    rw [key]
    simp [some]

/-- One pattern without directories is about the entries of the directory itself. -/
theorem mem_matching_single {pattern : String} (plain : (pattern == "**") = false) :
    q ∈ d.matching p [pattern] ↔
      ∃ n, p.names ++ [n] ∈ Assoc.keys d.entries ∧ Text.matchesName pattern n = true ∧
        q = { p with names := p.names ++ [n] } := by
  simp only [matching, List.mem_map, List.mem_filter, mem_below]
  constructor
  · rintro ⟨ns, ⟨⟨filled, mem⟩, fit⟩, rfl⟩
    cases ns with
    | nil => exact absurd rfl filled
    | cons n rest =>
      simp only [namesFit, plain, Bool.false_eq_true, if_false, Bool.and_eq_true, List.isEmpty_iff] at fit
      obtain ⟨fits, rfl⟩ := fit
      exact ⟨n, mem, fits, rfl⟩
  · rintro ⟨n, mem, fits, rfl⟩
    exact ⟨[n], ⟨⟨List.cons_ne_nil _ _, mem⟩, by simp [namesFit, plain, fits]⟩, rfl⟩

end Disk

namespace Cache

variable {c : Cache} {d : Disk} {here : Path}

/-- The names of the files that belong to a cache which has data of some files. -/
def Owned (platform : Platform) (stored : List String) (n : String) : Prop :=
  n = "manifest.json" ∨ n = "manifest.tmp" ∨
    ∃ file ∈ stored, ∃ path, platform.pathBytes file = some path ∧ n = blobName path

/-- Every file of the directory with the ending of data belongs to a cache which has data of some files. -/
def OnlyOwnData (platform : Platform) (dir stored : List String) (d : Disk) : Prop :=
  ∀ (p : Path) (n : String), p.names = dir ++ [n] → d.isFile p = true → Text.endsWith n ".json" = true →
    Owned platform stored n

/-- The names that clearing removes. -/
def Swept (n : String) : Prop := Text.endsWith n ".json" = true ∨ n = "manifest.tmp"

/-- The files that a manifest has. -/
def filesIn (manifest : Json) : List String := Assoc.keys ((manifest.get? "files").getD (.obj [])).members

/-- Is the manifest one of another version? -/
def isOutdated (manifest : Json) : Bool := !(manifest.get? "version" == some (.str version))

theorem removes_removeAll (d : Disk) (here : Path) (ps : List Path) :
    Disk.Removes (fun q => ∃ p ∈ ps, q.names = (here.resolve p).names) d (removeAll d here ps).1 := by
  have each : ∀ p ps (q : Path), (q.names = (here.resolve p).names ∨ ∃ p ∈ ps, q.names = (here.resolve p).names) ↔
      ∃ p' ∈ p :: ps, q.names = (here.resolve p').names := by simp
  induction ps generalizing d with
  | nil => exact .refl (by simp)
  | cons p ps ih =>
    rw [removeAll]
    rcases d.remove_cases (here.resolve p) with ⟨d', removed, one⟩ | ⟨e, failed, one⟩
    · rw [removed]
      exact (one.trans (ih d')).congr fun q _ => each p ps q
    · rw [failed]
      exact (one.trans (ih d)).congr fun q _ => each p ps q

theorem mem_dataFiles {p : Path} :
    p ∈ c.dataFiles d here ↔ ∃ n, (here.resolve c.directory).names ++ [n] ∈ Assoc.keys d.entries ∧
      Text.endsWith n ".json" = true ∧ p = c.directory.below n := by
  rw [dataFiles, List.mem_map]
  constructor
  · rintro ⟨q, found, rfl⟩
    obtain ⟨n, mem, fits, rfl⟩ := (Disk.mem_matching_single rfl).1 found
    rw [Text.matchesName_data] at fits
    exact ⟨n, mem, fits, by simp [Path.name]⟩
  · rintro ⟨n, mem, fits, rfl⟩
    rw [← Text.matchesName_data] at fits
    exact ⟨_, (Disk.mem_matching_single rfl).2 ⟨n, mem, fits, rfl⟩, by simp [Path.name]⟩

/-- The data files of a cache are the files of its directory with the ending. -/
theorem removes_dataFiles (c : Cache) (here : Path) (proper : d.Proper) :
    Disk.Removes (fun q => ∃ n, q.names = (here.resolve c.directory).names ++ [n] ∧ Text.endsWith n ".json" = true)
      d (removeAll d here (c.dataFiles d here)).1 := by
  have named : ∀ n, (here.resolve c.directory).names ++ [n] ∈ Assoc.keys d.entries → Path.IsName n := by
    intro n mem
    obtain ⟨e, given, key⟩ := List.mem_map.1 mem
    apply proper.names e given
    rw [key]
    exact List.mem_append_right _ List.mem_cons_self
  apply (removes_removeAll d here (c.dataFiles d here)).congr
  intro q file
  constructor
  · rintro ⟨p, found, same⟩
    obtain ⟨n, mem, ending, rfl⟩ := mem_dataFiles.1 found
    rw [Path.names_resolve_below here c.directory (named n mem)] at same
    exact ⟨n, same, ending⟩
  · rintro ⟨n, names, ending⟩
    have mem := Disk.mem_keys_of_isFile file
    rw [names] at mem
    refine ⟨_, mem_dataFiles.2 ⟨n, mem, ending, rfl⟩, ?_⟩
    rw [names, Path.names_resolve_below here c.directory (named n mem)]

theorem removes_removeDraft (c : Cache) (d : Disk) (here : Path) :
    Disk.Removes (fun q => q.names = (here.resolve c.directory).names ++ ["manifest.tmp"]) d
      ((c.removeDraft d here).toOption.getD d) := by
  have place : (here.resolve c.draftPath).names = (here.resolve c.directory).names ++ ["manifest.tmp"] :=
    names_place c here isName_draft
  simp only [← place, removeDraft]
  split
  · next absent =>
    refine .refl fun q file same => ?_
    rw [Disk.isFile, Disk.get?_congr same] at file
    simp only [Disk.holds, Bool.not_eq_true', Option.isSome_eq_false_iff, Option.isNone_iff_eq_none] at absent
    simp [absent] at file
  · rcases d.remove_cases (here.resolve c.draftPath) with ⟨d', removed, one⟩ | ⟨e, failed, one⟩
    · rw [removed]
      exact one
    · rw [failed]
      exact one

theorem clear_of_there (there : d.holds (here.resolve c.directory) = true) :
    (c.clear d here).2.1 = (c.removeDraft (removeAll d here (c.dataFiles d here)).1 here).toOption.getD
      (removeAll d here (c.dataFiles d here)).1 := by
  have files : ({ c with manifest := emptyManifest c.stamp } : Cache).dataFiles d here = c.dataFiles d here := rfl
  have draft : ({ c with manifest := emptyManifest c.stamp } : Cache).removeDraft = c.removeDraft := rfl
  simp only [clear, there, files, draft, Bool.not_true, Bool.false_eq_true, if_false]
  cases c.removeDraft (removeAll d here (c.dataFiles d here)).1 here with
  | ok d' => rfl
  | error e => rfl

/-- **What clearing removes.** The files with swept names are gone from the directory, and everything else is as it was. -/
theorem removes_clear (c : Cache) (here : Path) (proper : d.Proper) :
    Disk.Removes (fun q => ∃ n, q.names = (here.resolve c.directory).names ++ [n] ∧ Swept n) d (c.clear d here).2.1 := by
  by_cases there : d.holds (here.resolve c.directory) = true
  · rw [clear_of_there there]
    apply ((removes_dataFiles c here proper).trans (removes_removeDraft c _ here)).congr
    intro q _
    constructor
    · rintro (⟨n, names, ending⟩ | names)
      · exact ⟨n, names, Or.inl ending⟩
      · exact ⟨_, names, Or.inr rfl⟩
    · rintro ⟨n, names, ending | rfl⟩
      · exact Or.inl ⟨n, names, ending⟩
      · exact Or.inr names
  · have same : (c.clear d here).2.1 = d := by simp [clear, there]
    rw [same]
    -- A file of the directory would need the directory.
    refine .refl ?_
    rintro q file ⟨n, names, -⟩
    obtain ⟨e, given, key⟩ := List.mem_map.1 (Disk.mem_keys_of_isFile file)
    have above : d.isDirectory (here.resolve c.directory) = true := by
      have above := proper.above e given
      rwa [key, names, List.dropLast_concat] at above
    apply there
    rw [Disk.isDirectory] at above
    cases held : d.get? (here.resolve c.directory) with
    | none => rw [held] at above; cases above
    | some _ => rw [Disk.holds, held]; rfl

/-- Opening a cache with a manifest of another version clears it. -/
theorem start_of_outdated {platform : Platform} {directory : Path} (stamp : String) {manifest : Json}
    (found : d.readJson (here.resolve (directory.below "manifest.json")) platform.limits = .ok manifest)
    (outdated : isOutdated manifest = true) :
    start platform directory true stamp d here =
      let r := clear { platform, directory, stamp, manifest := emptyManifest stamp } d here
      (r.1, r.2.1, otherVersion manifest :: r.2.2.1, r.2.2.2) := by
  have other : (manifest.get? "version" == some (.str version)) = false := by simpa [isOutdated] using outdated
  rw [start, if_pos rfl, load, manifestPath, found]
  simp only [other]

theorem keepsOthers_iff_of_removes {platform : Platform} {dir stored : List String} {d' : Disk}
    (removes : Disk.Removes (fun q => ∃ n, q.names = dir ++ [n] ∧ Swept n) d d') :
    Disk.KeepsOthers dir (Owned platform stored) d d' ↔ OnlyOwnData platform dir stored d := by
  constructor
  · intro keeps p n names file ending
    by_contra other
    have same := keeps p n names other file
    rw [removes.lost p file ⟨n, names, Or.inl ending⟩] at same
    simp [Disk.isFile, ← same] at file
  · intro own p n names other file
    apply removes.kept p
    rintro - ⟨m, names', swept⟩
    obtain rfl : m = n := by simpa [names] using names'.symm
    rcases swept with ending | rfl
    · exact other (own p m names file ending)
    · exact other (Or.inr (Or.inl rfl))

/-- **Clearing keeps the files of others exactly if none of them has the ending of data.** A cache is cleared with the files
of its manifest and those that the session has added, or when it is opened and finds the manifest of another version.
Both times the files with swept names go and nothing else does; so every file that belongs to someone else stays if and
only if all data in the directory is the cache's own. -/
theorem clear_keepsOthers_iff (c : Cache) (here : Path) (session : List String) (proper : d.Proper) :
    (Disk.Removes (fun q => ∃ n, q.names = (here.resolve c.directory).names ++ [n] ∧ Swept n) d (c.clear d here).2.1 ∧
      (Disk.KeepsOthers (here.resolve c.directory).names (Owned c.platform (filesIn (.obj c.manifest) ++ session)) d
          (c.clear d here).2.1 ↔
        OnlyOwnData c.platform (here.resolve c.directory).names (filesIn (.obj c.manifest) ++ session) d)) ∧
    ∀ (stamp : String) (manifest : Json),
      d.readJson (here.resolve c.manifestPath) c.platform.limits = .ok manifest → isOutdated manifest = true →
      Disk.Removes (fun q => ∃ n, q.names = (here.resolve c.directory).names ++ [n] ∧ Swept n) d
          (start c.platform c.directory true stamp d here).2.1 ∧
        (Disk.KeepsOthers (here.resolve c.directory).names (Owned c.platform (filesIn manifest)) d
            (start c.platform c.directory true stamp d here).2.1 ↔
          OnlyOwnData c.platform (here.resolve c.directory).names (filesIn manifest) d) := by
  constructor
  · have removes := removes_clear c here proper
    exact ⟨removes, keepsOthers_iff_of_removes removes⟩
  · intro stamp manifest found outdated
    have removes := removes_clear
      { platform := c.platform, directory := c.directory, stamp, manifest := emptyManifest stamp } here proper
    rw [start_of_outdated stamp found outdated]
    exact ⟨removes, keepsOthers_iff_of_removes removes⟩

section Samples

/-- A file with a text. -/
def sampleFile (text : String) : Entry := .file (Utf8.encode text) (Decimal.ofInt 1)

/-- A platform that has a name for every file and no source. -/
def blankPlatform : Platform where
  tree := fun _ => default

/-- A cache in the directory `app`, which has the data of one file. -/
def sampleCache : Cache where
  platform := blankPlatform
  directory := ⟨.root, ["app"]⟩
  manifest := [("version", .str version), ("files", .obj [("a.php", entryOf blankPlatform "a.php" "1.0:5")])]

/-- The name of the data of that file. -/
def sampleBlob : String := blobName (Utf8.encode "a.php")

theorem sampleBlob_ne_notes : sampleBlob ≠ "notes.txt" := by decide +kernel

/-- A directory with the data of that file and a file of someone else. -/
def tidyDisk : Disk where
  entries := [(["app"], .directory), (["app", "manifest.json"], sampleFile ""), (["app", sampleBlob], sampleFile "{}"),
    (["app", "notes.txt"], sampleFile "keep")]
  distinct := by
    have notManifest : sampleBlob ≠ "manifest.json" := blobName_ne_of_mem _ (by decide)
    simp [Assoc.keys, notManifest.symm, sampleBlob_ne_notes]

/-- The directory of a project, with the manifest of another version in it. -/
def crowdedDisk : Disk where
  entries := [(["app"], .directory), (["app", "manifest.json"], sampleFile (Json.obj []).compact),
    (["app", "composer.json"], sampleFile "{}")]

theorem clear_keepsOthers_tidy :
    tidyDisk.Proper ∧
      Disk.KeepsOthers ["app"] (Owned blankPlatform ["a.php"]) tidyDisk (sampleCache.clear tidyDisk {}).2.1 := by
  have proper : tidyDisk.Proper := by
    constructor
    · simp only [tidyDisk, List.forall_mem_cons, List.not_mem_nil, false_implies, implies_true, and_true]
      exact ⟨by decide, ⟨by decide, by decide⟩, ⟨by decide, isName_blobName _⟩, by decide, by decide⟩
    · simp only [tidyDisk, List.forall_mem_cons, List.not_mem_nil, false_implies, implies_true, and_true]
      exact ⟨rfl, rfl, rfl, rfl⟩
  have own : OnlyOwnData blankPlatform ["app"] ["a.php"] tidyDisk := by
    intro p n names file ending
    have mem := Disk.mem_keys_of_isFile file
    rw [names] at mem
    have cases : n = "manifest.json" ∨ n = sampleBlob ∨ n = "notes.txt" := by
      simpa [tidyDisk, Assoc.keys] using mem
    rcases cases with rfl | rfl | rfl
    · exact Or.inl rfl
    · exact Or.inr (Or.inr ⟨"a.php", by simp, _, rfl, rfl⟩)
    · exact absurd ending (by decide)
  exact ⟨proper, (clear_keepsOthers_iff sampleCache {} [] proper).1.2.2 own⟩

/-- The file of a project goes with the cache, when it is cleared and when it is opened. -/
theorem clear_loses_composer :
    crowdedDisk.Proper ∧
      ¬Disk.KeepsOthers ["app"] (Owned blankPlatform (filesIn (.obj sampleCache.manifest))) crowdedDisk
        (sampleCache.clear crowdedDisk {}).2.1 ∧
      crowdedDisk.readJson ⟨.root, ["app", "manifest.json"]⟩ = .ok (.obj []) ∧ isOutdated (.obj []) = true ∧
      ¬Disk.KeepsOthers ["app"] (Owned blankPlatform (filesIn (.obj []))) crowdedDisk
        (start blankPlatform ⟨.root, ["app"]⟩ true "" crowdedDisk {}).2.1 := by
  have proper : crowdedDisk.Proper := ⟨by decide, by decide⟩
  have foreign : ∀ stored, ¬OnlyOwnData blankPlatform ["app"] stored crowdedDisk := by
    intro stored own
    rcases own ⟨.root, ["app", "composer.json"]⟩ "composer.json" rfl rfl (by decide) with eq | eq | ⟨_, -, path, -, eq⟩
    · exact absurd eq (by decide)
    · exact absurd eq (by decide)
    · exact blobName_ne_of_mem path (by decide) eq.symm
  have plain : Json.Plain {} (.obj []) := .obj rfl nofun List.nodup_nil
  have found : crowdedDisk.readJson ⟨.root, ["app", "manifest.json"]⟩ = .ok (.obj []) :=
    Disk.readJson_of_entry plain (Json.written_compact plain) rfl
  refine ⟨proper, fun keeps => ?_, found, rfl, fun keeps => ?_⟩
  · exact foreign _ ((keepsOthers_iff_of_removes (removes_clear sampleCache {} proper)).1 keeps)
  · rw [start_of_outdated "" found rfl] at keeps
    have removes := removes_clear
      { platform := blankPlatform, directory := ⟨.root, ["app"]⟩, manifest := emptyManifest "" } {} proper
    exact foreign _ ((keepsOthers_iff_of_removes removes).1 keeps)

end Samples

end Cache
end DeadCode
