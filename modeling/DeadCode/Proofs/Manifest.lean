import DeadCode.Cache
import DeadCode.Proofs.Assoc
import DeadCode.Proofs.DiskWrites
import DeadCode.Proofs.Records

/-!
# The manifest of a cache

What a cache knows is a fingerprint for each file that it has (`Tells`). Each operation is described by what it does to
these fingerprints and to the directory: a lookup finds the data of a file whose fingerprint is the known one, an entry
changes one fingerprint and one data file, and a manifest that was written is the same when it is opened again.
-/

namespace DeadCode
set_option autoImplicit false

theorem Text.hexDigit_mem {n : Nat} (h : n < 16) : hexDigit n ∈ "0123456789abcdef".toList := by
  revert n
  decide

theorem Md5.mem_hex {bytes : List UInt8} {c : Char} (h : c ∈ (hex bytes).toList) : c ∈ "0123456789abcdef".toList := by
  rw [hex, String.toList_ofList] at h
  obtain ⟨b, -, h⟩ := List.mem_flatMap.1 h
  obtain ⟨i, -, rfl⟩ := List.mem_map.1 h
  exact Text.hexDigit_mem (Nat.mod_lt _ (by decide))

theorem Json.beq_str (s t : String) : (Json.str s == Json.str t) = (s == t) := rfl

namespace Cache

section Names

variable (path : List UInt8)

theorem not_mem_blobName {c : Char} (other : c ∉ "0123456789abcdef.json".toList) : c ∉ (blobName path).toList := by
  intro mem
  rw [blobName, String.toList_append, List.mem_append] at mem
  rcases mem with digit | ending
  · exact other (List.mem_of_mem_take (i := 16) (Md5.mem_hex digit))
  · exact other (List.mem_of_mem_drop (i := 16) ending)

theorem isName_blobName : Path.IsName (blobName path) := by
  have letter : 'j' ∈ (blobName path).toList := by simp [blobName]
  exact
    { filled := fun eq => by simp [eq] at letter
      notDot := fun eq => by simp [eq] at letter
      notDots := fun eq => by simp [eq] at letter
      noSlash := not_mem_blobName path (by decide) }

theorem blobName_ne_of_mem {n : String} (mem : 'm' ∈ n.toList) : blobName path ≠ n :=
  fun eq => not_mem_blobName path (by decide) (eq ▸ mem)

/-- No manifest is written over a data file: the names of data files have only hexadecimal digits in front of the ending. -/
theorem blobName_not_manifest : ¬(blobName path = "manifest.tmp" ∨ blobName path = "manifest.json") := by
  rintro (draft | manifest)
  · exact blobName_ne_of_mem path (by decide) draft
  · exact blobName_ne_of_mem path (by decide) manifest

theorem isName_manifest : Path.IsName "manifest.json" := ⟨by decide, by decide, by decide, by decide⟩

theorem isName_draft : Path.IsName "manifest.tmp" := ⟨by decide, by decide, by decide, by decide⟩

/-- The names of the files that a cache writes. -/
inductive Owns : String → Prop
  | manifest : Owns "manifest.json"
  | draft : Owns "manifest.tmp"
  | blob (path : List UInt8) : Owns (blobName path)

theorem Owns.isName {n : String} (own : Owns n) : Path.IsName n := by
  cases own with
  | manifest => exact isName_manifest
  | draft => exact isName_draft
  | blob path => exact isName_blobName path

end Names

/-- The name of the data file of a file whose name is text. -/
def blobOf (p : Platform) (file : String) : String := blobName ((p.pathBytes file).getD [])

theorem blobOf_eq {p : Platform} {file : String} {path : List UInt8} (text : p.pathBytes file = some path) :
    blobOf p file = blobName path := by
  rw [blobOf, text, Option.getD_some]

/-- What the manifest has about a file. -/
def entryOf (p : Platform) (file print : String) : Json :=
  .obj [("fingerprint", .str print), ("blob_ref", .str (blobOf p file))]

/-- The manifest has the files with these fingerprints and no others. -/
def Records (p : Platform) (manifest : List (String × Json)) (print : String → Option String) : Prop :=
  ∃ stamp ms, manifest = [("version", .str version), ("created", .str stamp), ("files", .obj ms)] ∧
    (Assoc.keys ms).Nodup ∧ ∀ file, Assoc.get? ms file = (print file).map (entryOf p file)

/-- A manifest has three levels and no numbers. -/
theorem Records.plain {p : Platform} {manifest : List (String × Json)} {print : String → Option String}
    (records : Records p manifest print) {l : Json.Limits} (room : l.Room 3) : Json.Plain l (.obj manifest) := by
  obtain ⟨stamp, ms, rfl, distinct, entries⟩ := records
  refine .obj_of_room room (fun l₁ room₁ _ => ?_) (by simp [Assoc.keys])
  simp only [List.forall_mem_cons, List.not_mem_nil, false_implies, implies_true, and_true]
  refine ⟨.str _, .str _, .obj_of_room room₁ (fun l₂ room₂ _ m mem => ?_) distinct⟩
  have found := Assoc.get?_of_mem distinct mem
  rw [entries] at found
  obtain ⟨now, -, entry⟩ := Option.map_eq_some_iff.1 found
  rw [← entry]
  exact .obj_of_room room₂ (fun l₃ _ _ => by simp [Json.Plain.str]) (by simp [Assoc.keys])

/-- The cache is in use, and its manifest has these fingerprints. -/
structure Tells (c : Cache) (print : String → Option String) : Prop where
  enabled : c.enabled = true
  records : Records c.platform c.manifest print

namespace Tells

variable {c : Cache} {print : String → Option String} {d d' : Disk} {here : Path} {file : String}

theorem recordOf (tells : c.Tells print) :
    c.recordOf file = .ok (((print file).map (entryOf c.platform file)).getD .null) := by
  obtain ⟨stamp, ms, eq, -, entries⟩ := tells.records
  simp [Cache.recordOf, files, eq, Assoc.get?, entries]

theorem isValid_of_new (tells : c.Tells print) (new : print file = none) : c.isValid d here file = .ok false := by
  rw [Cache.isValid, tells.enabled, tells.recordOf, new]
  rfl

theorem isValid (tells : c.Tells print) {p : String} {current : Option String} (known : print file = some p)
    (now : fingerprint c.platform d here file = .ok current) : c.isValid d here file = .ok (current == some p) := by
  rw [Cache.isValid, tells.enabled, tells.recordOf, known]
  simp only [Bool.not_true, Bool.false_eq_true, if_false, Option.map_some, Option.getD_some, entryOf, now, bind, Except.bind]
  cases current with
  | none => rfl
  | some q => exact congrArg Except.ok (BEq.comm (a := p) (b := q))

theorem get_of_invalid (tells : c.Tells print) (invalid : c.isValid d here file = .ok false) :
    c.get d here file = .ok ({ c with misses := c.misses + 1 }, none) := by
  rw [get, tells.enabled, invalid]
  rfl

/-- What was kept of an unchanged file is found, as it was written. -/
theorem get_of_unchanged (tells : c.Tells print) {p : String} {kept : Collected} {time : Decimal}
    (known : print file = some p) (same : fingerprint c.platform d here file = .ok (some p))
    (held : d.get? (here.resolve (c.directory.below (blobOf c.platform file))) =
      some (.file (Utf8.encode kept.toJson.compact) time))
    (plain : kept.toJson.Plain c.platform.limits) :
    c.get d here file = .ok ({ c with hits := c.hits + 1 }, some kept.records) := by
  have valid : c.isValid d here file = .ok true := by
    rw [tells.isValid known same, beq_self_eq_true]
  have path : c.blobPath (entryOf c.platform file p) = .ok (c.directory.below (blobOf c.platform file)) := rfl
  have data := Disk.readJson_of_entry plain (Json.written_compact plain) held
  simp [get, tells.enabled, valid, tells.recordOf, known, path, data, kept.loaded_toJson, bind, Except.bind, pure,
    Except.pure]

/-- A new record of a file. -/
theorem enter (tells : c.Tells print) (p : String) :
    ∃ c', c.enter file p (blobOf c.platform file) = .ok c' ∧ c'.directory = c.directory ∧ c'.platform = c.platform ∧
      c'.Tells (Function.update print file (some p)) := by
  obtain ⟨stamp, ms, eq, distinct, entries⟩ := tells.records
  have held : c.files = .obj ms := by simp [files, eq, Assoc.get?]
  rw [Cache.enter, held]
  refine ⟨_, rfl, rfl, rfl, tells.enabled, stamp, Assoc.set ms file (entryOf c.platform file p), ?_,
    Assoc.nodup_keys_set _ distinct, ?_⟩
  · simp [eq, Assoc.set, entryOf]
  · intro f
    by_cases same : f = file
    · rw [same, Assoc.get?_set_self, Function.update_self]
      rfl
    · rw [Assoc.get?_set_of_ne _ _ same, entries, Function.update_of_ne same]

end Tells

section Writing

variable {c : Cache} {d d' : Disk} {here : Path} {now : Decimal}

/-- Where the data files and the manifest are. -/
def place (c : Cache) (here : Path) (n : String) : Path := here.resolve (c.directory.below n)

theorem names_place (c : Cache) (here : Path) {n : String} (name : Path.IsName n) :
    (c.place here n).names = (here.resolve c.directory).names ++ [n] := Path.names_resolve_below here c.directory name

theorem sameBut_writeIn {n text : String} (name : Path.IsName n)
    (h : c.writeIn d here (c.directory.below n) text now = .ok d') :
    Disk.SameBut (here.resolve c.directory).names (· = n) d d' ∧
      d'.get? (c.place here n) = some (.file (Utf8.encode text) now) := by
  rw [writeIn] at h
  split at h
  · cases h
  · next made =>
    split at h
    · cases h
    · next written =>
      obtain rfl := Except.ok.inj h
      exact Disk.sameBut_write _ made (names_place c here name) written

theorem exists_writeIn {n : String} (accepts : d.Accepts (here.resolve c.directory) Owns) (own : Owns n) (text : String)
    (now : Decimal) : ∃ d', c.writeIn d here (c.directory.below n) text now = .ok d' := by
  obtain ⟨d₁, d₂, made, written⟩ := accepts.exists_write own (names_place c here own.isName) (Utf8.encode text) now
  rw [place] at written
  exact ⟨d₂, by simp [writeIn, made, written]⟩

/-- A file whose name is no text cannot be kept. -/
theorem set_of_unnamed (enabled : c.enabled = true) {file p : String} {data : Json}
    (now_print : fingerprint c.platform d here file = .ok (some p)) (unnamed : c.platform.pathBytes file = none) :
    c.set d here now file data = (d, [], .error .nameNotText) := by
  simp [set, enabled, now_print, unnamed]

/-- Keeping the data of a file changes its fingerprint and its data file. A data file that cannot be written is told of, and
then nothing is kept; something stands in its way. -/
theorem set_cases {print : String → Option String} (tells : c.Tells print) (now : Decimal) {file p : String} (data : Json)
    (now_print : fingerprint c.platform d here file = .ok (some p)) {path : List UInt8}
    (named : c.platform.pathBytes file = some path) :
    (∃ line, c.set d here now file data = (d, [line], .ok c) ∧ ¬d.Accepts (here.resolve c.directory) Owns) ∨
    ∃ d' c', c.set d here now file data = (d', [], .ok c') ∧ c'.directory = c.directory ∧ c'.platform = c.platform ∧
      c'.Tells (Function.update print file (some p)) ∧
      Disk.SameBut (here.resolve c.directory).names (· = blobOf c.platform file) d d' ∧
      d'.get? (c.place here (blobOf c.platform file)) = some (.file (Utf8.encode data.compact) now) := by
  rw [set, tells.enabled, now_print, named]
  simp only [Bool.not_true, Bool.false_eq_true, if_false]
  cases written : c.writeIn d here (c.directory.below (blobName path)) data.compact now with
  | error reason =>
    refine Or.inl ⟨_, rfl, fun accepts => ?_⟩
    obtain ⟨d', done⟩ := exists_writeIn accepts (.blob path) data.compact now
    cases written.symm.trans done
  | ok d' =>
    rw [← blobOf_eq named] at written ⊢
    obtain ⟨same, held⟩ := sameBut_writeIn (isName_blobName _) written
    obtain ⟨c', entered, directory, platform, tells'⟩ := tells.enter p
    exact Or.inr ⟨d', c', by rw [entered], directory, platform, tells', same, held⟩

/-- Writing the manifest changes nothing but the manifest and its draft, if it succeeds. -/
theorem save_of_silent (enabled : c.enabled = true) (silent : (c.save d here now).2 = []) :
    ∃ d', c.save d here now = (d', []) ∧
      Disk.SameBut (here.resolve c.directory).names (fun n => n = "manifest.tmp" ∨ n = "manifest.json") d d' ∧
      d'.get? (c.place here "manifest.tmp") = none ∧
      d'.get? (c.place here "manifest.json") = some (.file (Utf8.encode (Json.obj c.manifest).indented) now) := by
  rw [save, enabled] at silent ⊢
  simp only [Bool.not_true, Bool.false_eq_true, if_false] at silent ⊢
  cases written : c.writeIn d here c.draftPath (Json.obj c.manifest).indented now with
  | error reason => simp [written] at silent
  | ok d₁ =>
    obtain ⟨drafted, held⟩ := sameBut_writeIn isName_draft written
    simp only [written] at silent ⊢
    cases moved : d₁.rename (here.resolve c.draftPath) (here.resolve c.manifestPath) with
    | error e => simp [moved] at silent
    | ok d₂ =>
      obtain ⟨renamed, gone, stands⟩ :=
        Disk.sameBut_rename (names_place c here isName_draft) (names_place c here isName_manifest) (by decide) held moved
      exact ⟨d₂, rfl, (drafted.mono fun n eq => Or.inl eq).trans renamed, gone, stands⟩

/-- The manifest can be written where nothing stands in its way. -/
theorem save_of_accepts (accepts : d.Accepts (here.resolve c.directory) Owns) : (c.save d here now).2 = [] := by
  rw [save]
  split
  · rfl
  · obtain ⟨d₁, written⟩ := exists_writeIn accepts .draft (Json.obj c.manifest).indented now
    obtain ⟨drafted, held⟩ := sameBut_writeIn isName_draft written
    have free : d₁.isDirectory (here.resolve c.manifestPath) = false := by
      have names := names_place c here isName_manifest
      rw [place] at names
      rw [manifestPath, Disk.isDirectory_congr (drafted.entry_in names (by decide))]
      exact accepts.free _ _ .manifest names
    rw [place] at held
    simp only [draftPath, written, Disk.rename, held, free, Bool.false_eq_true, if_false]

/-- A manifest that cannot be written leaves the old one where it is. -/
theorem save_cases (c : Cache) (d : Disk) (here : Path) (now : Decimal) :
    (c.save d here now).2 = [] ∨
      Disk.SameBut (here.resolve c.directory).names (· = "manifest.tmp") d (c.save d here now).1 := by
  rw [save]
  split
  · exact Or.inl rfl
  · cases written : c.writeIn d here c.draftPath (Json.obj c.manifest).indented now with
    | error reason => exact Or.inr .refl
    | ok d₁ =>
      simp only
      cases d₁.rename (here.resolve c.draftPath) (here.resolve c.manifestPath) with
      | error e => exact Or.inr (sameBut_writeIn isName_draft written).1
      | ok d₂ => exact Or.inl rfl

end Writing

section Opening

variable {platform : Platform} {directory here : Path} (stamp : String) {d : Disk}

/-- A cache without a manifest knows nothing. -/
theorem start_of_none (missing : d.get? (here.resolve (directory.below "manifest.json")) = none) :
    ∃ c lines, start platform directory true stamp d here = (c, d, lines, .ok ()) ∧ c.directory = directory ∧
      c.platform = platform ∧ c.Tells fun _ => none := by
  have empty : ∀ c : Cache, c.enabled = true → c.manifest = emptyManifest stamp → c.Tells fun _ => none :=
    fun c enabled manifest => ⟨enabled, stamp, [], manifest, List.nodup_nil, fun _ => rfl⟩
  have absent : ∃ e, d.readJson (here.resolve (directory.below "manifest.json")) platform.limits =
      .error (.unreadable e (here.resolve (directory.below "manifest.json")).text) := by
    refine ⟨d.absence (here.resolve (directory.below "manifest.json")), ?_⟩
    simp [Disk.readJson, Disk.readText, Disk.read, missing, bind, Except.bind]
  obtain ⟨e, absent⟩ := absent
  rw [start, load, manifestPath, absent]
  cases e <;> exact ⟨_, _, rfl, rfl, rfl, empty _ rfl rfl⟩

/-- A cache that was written is the same when it is opened again. -/
theorem start_of_manifest {manifest : List (String × Json)} {print : String → Option String} {time : Decimal}
    (room : platform.limits.Room 3) (records : Records platform manifest print)
    (held : d.get? (here.resolve (directory.below "manifest.json")) =
      some (.file (Utf8.encode (Json.obj manifest).indented) time)) :
    ∃ c, start platform directory true stamp d here = (c, d, [], .ok ()) ∧ c.directory = directory ∧
      c.platform = platform ∧ c.Tells print := by
  have plain := records.plain room
  have data := Disk.readJson_of_entry plain (Json.written_indentedAt plain 0) held
  obtain ⟨stamp', ms, eq, distinct, entries⟩ := records
  have current : ((Json.obj manifest).get? "version" == some (.str version)) = true := by
    rw [eq]
    exact (Json.beq_str version version).trans (beq_self_eq_true version)
  have listed : Assoc.has manifest "files" = true := by simp [eq, Assoc.has]
  refine ⟨{ platform, directory, stamp, manifest }, ?_, rfl, rfl, rfl, stamp', ms, eq, distinct, entries⟩
  simp only [start, load, manifestPath, if_true, data, current, listed]

end Opening

end Cache
end DeadCode
