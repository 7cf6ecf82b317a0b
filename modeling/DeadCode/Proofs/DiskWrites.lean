import DeadCode.DataFile
import DeadCode.Proofs.JsonText
import DeadCode.Proofs.Utf8

/-!
# Writing into one directory

What a disk looks like after files of one directory were written: nothing else has changed, except that the directory and
those above it may be new (`SameBut`). A path that leads to none of the written files reads as before, and data that was
written reads back. Files can be written where nothing stands in their way (`Accepts`).
-/

namespace DeadCode
set_option autoImplicit false

namespace Path

/-- A text that names an entry of a directory. -/
structure IsName (n : String) : Prop where
  filled : n ≠ ""
  notDot : n ≠ "."
  notDots : n ≠ ".."
  noSlash : '/' ∉ n.toList

theorem ofString_of_isName {n : String} (name : IsName n) : ofString n = ⟨.here, [n]⟩ := by
  have anchor : anchorOf n.toList = .here := by
    unfold anchorOf
    split
    all_goals first | rfl | (have eq := ‹n.toList = _›; have free := name.noSlash; rw [eq] at free; simp at free)
  have whole : Text.splitAt '/' n = [n] := by
    simp [Text.splitAt, List.splitOn_eq_singleton name.noSlash]
  have filled := name.filled
  have notDot := name.notDot
  simp [ofString, anchor, whole, filled, notDot]

theorem withoutDots_concat (before ns : List String) {n : String} (name : n ≠ "..") :
    withoutDots before (ns ++ [n]) = withoutDots before ns ++ [n] := by
  induction ns generalizing before with
  | nil => simp [withoutDots, name]
  | cons m ns ih =>
    rw [List.cons_append, withoutDots, withoutDots]
    split
    · exact ih _
    · exact ih _

theorem names_resolve_below (here p : Path) {n : String} (name : IsName n) :
    (here.resolve (p.below n)).names = (here.resolve p).names ++ [n] := by
  obtain ⟨anchor, names⟩ := p
  have inside : (⟨anchor, names⟩ : Path).below n = ⟨anchor, names ++ [n]⟩ := by
    rw [below, ofString_of_isName name]
    rfl
  rw [inside]
  cases anchor with
  | here =>
    have longer := withoutDots_concat [] (here.names ++ names) name.notDots
    rwa [List.append_assoc] at longer
  | root => exact withoutDots_concat [] names name.notDots
  | doubleRoot => exact withoutDots_concat [] names name.notDots

end Path

theorem Text.unixLines_of_not_mem {cs : List Char} (h : '\r' ∉ cs) : unixLines cs = cs := by
  induction cs with
  | nil => rfl
  | cons c cs ih =>
    obtain ⟨other, rest⟩ := not_or.1 (mt List.mem_cons.2 h)
    have same := ih rest
    simp [unixLines, Ne.symm other, same]

namespace Disk

variable {d d' d'' : Disk} {p q : Path}

theorem get?_congr (same : q.names = p.names) : d.get? q = d.get? p := by
  rw [get?, get?, same]

theorem read_congr (same : q.names = p.names) : d.read q = d.read p := by
  obtain ⟨anchor, names⟩ := p
  obtain ⟨anchor', names'⟩ := q
  obtain rfl : names' = names := same
  rfl

theorem get?_put_self (e : Entry) (below : p.names ≠ []) (same : q.names = p.names) : Disk.get? (d.put p e) q = some e := by
  rw [get?_congr same, get?, put]
  simp [below]

theorem get?_put_of_ne (e : Entry) (other : q.names ≠ p.names) : Disk.get? (d.put p e) q = d.get? q := by
  rw [get?, get?, put, Assoc.get?_set_of_ne _ _ other]

theorem get?_drop_self (below : p.names ≠ []) (same : q.names = p.names) : (d.drop p).get? q = none := by
  rw [get?_congr same, get?, drop, Assoc.get?_erase_self]
  simp [below]

theorem get?_drop_of_ne (other : q.names ≠ p.names) : (d.drop p).get? q = d.get? q := by
  rw [get?, get?, drop, Assoc.get?_erase_of_ne other]

theorem isFile_congr (same : d'.get? p = d.get? p) : d'.isFile p = d.isFile p := by
  rw [isFile, isFile, same]

/-- Everything but some files of a directory is the same on both disks. Where there was nothing, the directory and those
above it may be new. -/
structure SameBut (dir : List String) (changed : String → Prop) (d d' : Disk) : Prop where
  entries : ∀ p : Path, (p.names <+: dir → d.holds p = true) → (∀ n, changed n → p.names ≠ dir ++ [n]) →
    d'.get? p = d.get? p
  files : ∀ p : Path, (∀ n, changed n → p.names ≠ dir ++ [n]) → d'.isFile p = d.isFile p

theorem not_prefix_concat {dir : List String} {n : String} (names : p.names = dir ++ [n]) : ¬p.names <+: dir := by
  intro above
  have short := above.length_le
  rw [names, List.length_append, List.length_singleton] at short
  omega

namespace SameBut

variable {dir : List String} {changed : String → Prop}

theorem refl : SameBut dir changed d d := ⟨fun _ _ _ => rfl, fun _ _ => rfl⟩

theorem trans (first : SameBut dir changed d d') (second : SameBut dir changed d' d'') : SameBut dir changed d d'' where
  entries := fun p there other => by
    have same := first.entries p there other
    rw [← same]
    refine second.entries p (fun above => ?_) other
    rw [holds, same]
    exact there above
  files := fun p other => (second.files p other).trans (first.files p other)

theorem mono {changed' : String → Prop} (more : ∀ n, changed n → changed' n) (h : SameBut dir changed d d') :
    SameBut dir changed' d d' :=
  ⟨fun p there other => h.entries p there fun n given => other n (more n given),
    fun p other => h.files p fun n given => other n (more n given)⟩

/-- What is in the directory under a name that has not changed. -/
theorem entry_in (h : SameBut dir changed d d') {n : String} (names : p.names = dir ++ [n]) (same : ¬changed n) :
    d'.get? p = d.get? p := by
  refine h.entries p (fun above => absurd above (not_prefix_concat names)) fun m given eq => ?_
  have last : [n] = [m] := List.append_cancel_left (names.symm.trans eq)
  obtain rfl : n = m := by simpa using last
  exact same given

/-- A path that does not lead to a changed file or through one. -/
theorem entry_apart (h : SameBut dir changed d d') (other : ∀ n, changed n → ¬dir ++ [n] <+: p.names)
    (there : p.names <+: dir → d.holds p = true) : d'.get? p = d.get? p :=
  h.entries p there fun n given eq => other n given (eq ▸ List.prefix_rfl)

/-- A file stands in the way of such a path on both disks or on none. -/
theorem read_apart (h : SameBut dir changed d d') (other : ∀ n, changed n → ¬dir ++ [n] <+: p.names)
    (there : p.names <+: dir → d.holds p = true) : d'.read p = d.read p := by
  have absence : d'.absence p = d.absence p := by
    have each : ∀ k, d'.isFile { p with names := p.names.take k } = d.isFile { p with names := p.names.take k } :=
      fun k => h.files _ fun n given eq => other n given (eq ▸ List.take_prefix k p.names)
    simp only [Disk.absence, each]
  rw [read, read, h.entry_apart other there, absence]

end SameBut

section Operations

variable {dir : List String} {n : String}

theorem isFile_put_directory (free : d.get? p = none) : (d.put p .directory).isFile q = d.isFile q := by
  by_cases same : q.names = p.names
  · have below : p.names ≠ [] := fun root => by simp [get?, root] at free
    rw [isFile, isFile, get?_put_self .directory below same, get?_congr same, free]
  · exact isFile_congr (get?_put_of_ne .directory same)

/-- Only directories are new, and only on the way down. -/
theorem sameBut_makeFrom {before ns : List String} (h : d.makeFrom before ns = .ok d') (changed : String → Prop) :
    SameBut (before ++ ns) changed d d' := by
  induction ns generalizing d before with
  | nil =>
    obtain rfl : d = d' := Except.ok.inj h
    exact .refl
  | cons m ns ih =>
    rw [makeFrom] at h
    have longer : before ++ m :: ns = (before ++ [m]) ++ ns := by simp
    rw [longer]
    split at h
    · exact ih h
    · cases h
    · next free =>
      have next := ih h
      -- The new directory stands where there was nothing, so it is no path that was held.
      refine .trans ⟨fun p there _ => ?_, fun p _ => isFile_put_directory free⟩ next
      refine get?_put_of_ne .directory fun eq => ?_
      have held : d.holds p = true := there (by rw [eq]; exact List.prefix_append _ _)
      rw [holds, get?_congr eq, free] at held
      cases held

theorem sameBut_put (e : Entry) (names : p.names = dir ++ [n]) : SameBut dir (· = n) d (d.put p e) := by
  have other : ∀ q : Path, (∀ m, m = n → q.names ≠ dir ++ [m]) → Disk.get? (d.put p e) q = d.get? q :=
    fun q given => get?_put_of_ne e (names ▸ given n rfl)
  exact ⟨fun q _ given => other q given, fun q given => isFile_congr (other q given)⟩

/-- Making a directory and writing a file into it. -/
theorem sameBut_write {bytes : List UInt8} {time : Decimal} (root : Path) (made : d.makeDirectories root = .ok d')
    (names : p.names = root.names ++ [n]) (written : d'.write p bytes time = .ok d'') :
    SameBut root.names (· = n) d d'' ∧ d''.get? p = some (.file bytes time) := by
  have eq : d'' = d'.put p (.file bytes time) := by
    rw [write] at written
    split at written
    · cases written
    · split at written
      · exact (Except.ok.inj written).symm
      · cases written
  have below : p.names ≠ [] := by simp [names]
  rw [eq]
  exact ⟨(sameBut_makeFrom made _).trans (sameBut_put _ names), get?_put_self _ below rfl⟩

/-- Moving a file within a directory. -/
theorem sameBut_rename {m : String} {e : Entry} (source : p.names = dir ++ [m]) (target : q.names = dir ++ [n]) (away : m ≠ n)
    (held : d.get? p = some e) (moved : d.rename p q = .ok d') :
    SameBut dir (fun k => k = m ∨ k = n) d d' ∧ d'.get? p = none ∧ d'.get? q = some e := by
  have eq : d' = (d.drop p).put q e := by
    rw [rename, held] at moved
    simp only at moved
    split at moved
    · cases moved
    · exact (Except.ok.inj moved).symm
  have below : p.names ≠ [] ∧ q.names ≠ [] := by simp [source, target]
  have apart : p.names ≠ q.names := by simpa [source, target] using away
  have other : ∀ r : Path, (∀ k, k = m ∨ k = n → r.names ≠ dir ++ [k]) → d'.get? r = d.get? r := fun r given => by
    rw [eq, get?_put_of_ne e (target ▸ given n (Or.inr rfl)), get?_drop_of_ne (source ▸ given m (Or.inl rfl))]
  refine ⟨⟨fun r _ given => other r given, fun r given => isFile_congr (other r given)⟩, ?_, ?_⟩
  · rw [eq, get?_put_of_ne e apart, get?_drop_self below.1 rfl]
  · rw [eq]
    exact get?_put_self e below.2 rfl

/-- Files of a directory can be written: no file stands on the way to it, and none of them is a directory. -/
structure Accepts (root : Path) (files : String → Prop) (d : Disk) : Prop where
  way : ∀ q : Path, q.names <+: root.names → d.isFile q = false
  free : ∀ q : Path, ∀ m, files m → q.names = root.names ++ [m] → d.isDirectory q = false

theorem isDirectory_congr (same : d'.get? q = d.get? p) : d'.isDirectory q = d.isDirectory p := by
  rw [isDirectory, isDirectory, same]

/-- A directory can be made where no file stands on the way. -/
theorem exists_makeFrom {before ns : List String} (way : ∀ q : Path, q.names <+: before ++ ns → d.isFile q = false)
    (there : d.isDirectory ⟨.root, before⟩ = true) :
    ∃ d', d.makeFrom before ns = .ok d' ∧ d'.isDirectory ⟨.root, before ++ ns⟩ = true := by
  induction ns generalizing d before with
  | nil => exact ⟨d, rfl, by rwa [List.append_nil]⟩
  | cons m ns ih =>
    have longer : before ++ m :: ns = (before ++ [m]) ++ ns := by simp
    rw [longer] at way ⊢
    rw [makeFrom]
    simp only
    cases held : d.get? ⟨.root, before ++ [m]⟩ with
    | some e =>
      cases e with
      | directory => exact ih way (by rw [isDirectory, held])
      | file bytes time =>
        have none := way ⟨.root, before ++ [m]⟩ (List.prefix_append _ _)
        rw [isFile, held] at none
        cases none
    | none =>
      refine ih (fun q above => ?_) ?_
      · rw [isFile_put_directory held]
        exact way q above
      · rw [isDirectory, get?_put_self .directory (by simp) rfl]

namespace Accepts

variable {root : Path} {files : String → Prop}

theorem exists_write (accepts : Accepts root files d) (given : files n) (names : p.names = root.names ++ [n])
    (bytes : List UInt8) (time : Decimal) :
    ∃ d' d'', d.makeDirectories root = .ok d' ∧ d'.write p bytes time = .ok d'' := by
  obtain ⟨d', made, there⟩ : ∃ d', d.makeFrom [] root.names = .ok d' ∧ d'.isDirectory ⟨.root, [] ++ root.names⟩ = true :=
    exists_makeFrom accepts.way rfl
  have free : d'.isDirectory p = false := by
    rw [isDirectory_congr ((sameBut_makeFrom made fun _ => False).entry_in names id)]
    exact accepts.free p n given names
  have above : d'.isDirectory p.parent = true := by
    rw [← there]
    refine isDirectory_congr (get?_congr ?_)
    rw [Path.parent, names, List.dropLast_concat, List.nil_append]
  exact ⟨d', d'.put p (.file bytes time), made, by simp [write, free, above]⟩

/-- Files that were written are in nobody's way. -/
theorem of_sameBut {changed : String → Prop} (accepts : Accepts root files d) (same : SameBut root.names changed d d')
    (after : ∀ q : Path, ∀ m, changed m → q.names = root.names ++ [m] → d'.isDirectory q = false) :
    Accepts root files d' where
  way := fun q above => by
    rw [same.files q fun m _ eq => not_prefix_concat eq above]
    exact accepts.way q above
  free := fun q m given names => by
    by_cases new : changed m
    · exact after q m new names
    · rw [isDirectory_congr (same.entry_in names new)]
      exact accepts.free q m given names

/-- A file that is put elsewhere. -/
theorem put (accepts : Accepts root files d) {bytes : List UInt8} {time : Decimal} (apart : ¬p.names <+: root.names) :
    Accepts root files (d.put p (.file bytes time)) where
  way := fun q above => by
    rw [isFile_congr (get?_put_of_ne _ fun eq => apart (eq ▸ above))]
    exact accepts.way q above
  free := fun q m given names => by
    by_cases same : q.names = p.names
    · have below : p.names ≠ [] := fun eq => apart (eq ▸ List.nil_prefix)
      rw [isDirectory, get?_put_self _ below same]
    · rw [isDirectory_congr (get?_put_of_ne _ same)]
      exact accepts.free q m given names

end Accepts

/-- Data that was written reads back. -/
theorem readJson_of_entry {v : Json} {text : String} {time : Decimal} {l : Json.Limits} (plain : v.Plain l)
    (written : Json.Written v text.toList) (held : d.get? p = some (.file (Utf8.encode text) time)) :
    d.readJson p l = .ok v := by
  have bytes : d.read p = .ok (Utf8.encode text) := by rw [read, held]
  have lines : d.readText p = .ok text := by
    rw [readText, bytes]
    simp only [Utf8.decode_encode, Text.unixLines_of_not_mem (Json.return_not_mem_written written), String.ofList_toList]
  have value : Json.read text l = .ok v := by
    have back := Json.read_of_written written plain
    rwa [String.ofList_toList] at back
  rw [readJson, lines]
  simp only [bind, Except.bind, value]

end Operations

end Disk
end DeadCode
