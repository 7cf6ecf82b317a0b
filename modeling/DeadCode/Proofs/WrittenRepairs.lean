import DeadCode.Proofs.DiskWrites
import DeadCode.Proofs.Takings
import Mathlib.Logic.Relation

/-!
# Repairs that have been written

A session tells of a repair as soon as its file has been written once, whether the write came before the repair or after
it. `Ledger` follows a session through calls and keeps the text that was last put on the disk for each file
(`put_of_written`). Every repair leads on to the text that the session has now (`Ledger.Sound.repairs`), and every repair
makes the text shorter. So the repairs that are told of are all on the disk exactly if no written file has been repaired
since (`fixedIssues_reached_iff`).
-/

namespace DeadCode.Fix
set_option autoImplicit false

section Shrinking

variable {i : Issue} {text new : String}

/-- The characters of lines, with one for the end of each. -/
def extent : List String → Nat
  | [] => 0
  | l :: ls => l.length + 1 + extent ls

theorem extent_append (ls ms : List String) : extent (ls ++ ms) = extent ls + extent ms := by
  induction ls with
  | nil => simp [extent]
  | cons l ls ih =>
    rw [List.cons_append, extent, extent, ih]
    omega

theorem length_join_lines (lines : List String) : (Text.join "\n" lines).length = extent lines - 1 := by
  rw [Text.join, ← String.length_toList, String.toList_intercalate]
  induction lines with
  | nil => rfl
  | cons l lines ih =>
    cases lines with
    | nil => simp [extent, String.length_toList]
    | cons m lines =>
      have feed : "\n".toList.length = 1 := rfl
      rw [List.map_cons, List.map_cons, List.intercalate_cons_cons, ← List.map_cons, List.length_append,
        List.length_append, ih, String.length_toList, feed]
      simp only [extent]
      omega

/-- Closing a gap drops lines. -/
theorem extent_closeGap_le (before after : List String) : extent (closeGap before after) ≤ extent after := by
  have drop : closeGap before after <:+ after := by
    unfold closeGap
    split
    · split
      · exact List.dropWhile_suffix _
      · exact List.suffix_rfl
    · exact List.suffix_rfl
  obtain ⟨dropped, eq⟩ := drop
  have parts := congrArg extent eq
  rw [extent_append] at parts
  omega

theorem length_pos_of_repairLine {before after : List String} {line : String}
    (repaired : (repairLine i before line after).newText = some new) : 0 < line.length := by
  by_contra none
  obtain rfl : line = "" := String.length_eq_zero_iff.1 (by omega)
  have other : (Text.startsWith (Text.strip "") "use " || Text.startsWith (Text.strip "") "use\t") = false := by decide
  simp [repairLine, other, Outcome.failed] at repaired

/-- A repair makes the text shorter: it takes away a line that is not empty. -/
theorem length_lt_of_repairImport (repaired : (repairImport i text).newText = some new) : new.length < text.length := by
  have whole : Text.join "\n" (Text.splitAt '\n' text) = text := Text.join_splitAt rfl text
  rw [repairImport] at repaired
  split at repaired
  · next line found =>
    generalize Text.splitAt '\n' text = lines at whole repaired found
    generalize (i.line - 1).toNat = index at repaired found
    split at found
    · cases found
    · have filled := length_pos_of_repairLine repaired
      have parts : lines.take index ++ line :: lines.drop (index + 1) = lines := by
        obtain ⟨lt, rfl⟩ := List.getElem?_eq_some_iff.1 found
        rw [← List.drop_eq_getElem_cons lt, List.take_append_drop]
      rcases repairLine_cases i line with ⟨message, eq⟩ | ⟨o, -, -, none, eq⟩
      · rw [eq, Outcome.fixed] at repaired
        obtain rfl := Option.some.inj repaired
        have gap := extent_closeGap_le (lines.take index) (lines.drop (index + 1))
        have sums := congrArg extent parts
        rw [extent_append, extent] at sums
        rw [← whole, length_join_lines, length_join_lines, withoutLine, extent_append]
        omega
      · rw [eq, none] at repaired
        cases repaired
  · cases repaired

end Shrinking

/-- The second text comes from the first one by repairs. -/
def Leads : String → String → Prop := Relation.ReflTransGen fun a b => ∃ i, (repairImport i a).newText = some b

theorem Leads.length_le {a b : String} (leads : Leads a b) : b.length ≤ a.length := by
  induction leads with
  | refl => exact le_refl _
  | tail _ step ih =>
    obtain ⟨i, repaired⟩ := step
    have shorter := length_lt_of_repairImport repaired
    omega

/-- The repair is part of a text: what it has left leads there. -/
def Outcome.ContainedIn (o : Outcome) (text : String) : Prop := ∃ new, o.newText = some new ∧ Leads new text

namespace Session

variable {s s' : Session} {d : Disk} {here : Path} {now : Decimal} {file : String} {i : Issue}

/-- The text of a file as the session has it. -/
def text? (s : Session) (file : String) : Option String := (Assoc.get? s.files file).map (·.text)

/-- The outcomes of the repairs that the session tells of. -/
def told (s : Session) : List Outcome := s.outcomes.filter fun o => o.status == .fixed && s.written.contains o.issue.file

theorem mem_told {o : Outcome} : o ∈ s.told ↔ o ∈ s.outcomes ∧ o.status = .fixed ∧ o.issue.file ∈ s.written := by
  simp [told]

/-- What taking an issue does: nothing that a repair would do, or one repair of the text of its file. -/
inductive Effect (i : Issue) (s s' : Session) : Prop
  | quiet (more : List Outcome) (unfixed : ∀ o ∈ more, o.status ≠ .fixed) (outcomes : s'.outcomes = s.outcomes ++ more)
      (texts : ∀ f t, s.text? f = some t → s'.text? f = some t)
  | repaired (old new : String) (changed : (repairImport i old).newText = some new)
      (outcomes : s'.outcomes = s.outcomes ++ [repairImport i old]) (before : ∀ t, s.text? i.file = some t → t = old)
      (after : s'.text? i.file = some new) (others : ∀ f t, f ≠ i.file → s.text? f = some t → s'.text? f = some t)

theorem text?_of_get? {files : List (String × SourceFile)}
    (same : ∀ f x, Assoc.get? s.files f = some x → Assoc.get? files f = some x) (f t : String)
    (held : s.text? f = some t) : (Assoc.get? files f).map (·.text) = some t := by
  obtain ⟨x, got, rfl⟩ := Option.map_eq_some_iff.1 held
  rw [same f x got, Option.map_some]

/-- One issue: a repair of the text of its file, or nothing of the kind. -/
theorem fixIssue_effect (builtIn : s.known = [(importFixer.name, importFixer)]) (d : Disk) (here : Path) (i : Issue) :
    (s.fixIssue d here i).1.dryRun = s.dryRun ∧ (s.fixIssue d here i).1.known = s.known ∧
      (s.fixIssue d here i).1.written = s.written ∧ Effect i s (s.fixIssue d here i).1 := by
  rw [fixIssue_eq builtIn]
  refine ⟨rfl, rfl, rfl, ?_⟩
  have ends := Sources.take_ends s.files s.codecs d here i
  generalize (Sources.take s.files s.codecs d here i).1 = files, (Sources.take s.files s.codecs d here i).2 = result at ends
  have quiet := fun unfixed => (ends.quiet unfixed).held
  cases ends with
  | stopped e => exact .quiet [] (by simp) rfl (text?_of_get? (quiet (by simp)))
  | early o _ unfixed =>
    have held := quiet fun _ ok => Except.ok.inj ok ▸ unfixed
    exact .quiet [o] (by simpa using unfixed) rfl (text?_of_get? held)
  | kept x _ _ unfixed =>
    have held := quiet fun _ ok => Except.ok.inj ok ▸ unfixed
    generalize repairImport i x.text = o at unfixed ⊢
    exact .quiet [o] (by simpa using unfixed) rfl (text?_of_get? held)
  | repaired x text _ read new =>
    refine .repaired x.text text new rfl ?_ ?_ ?_
    · intro t old
      obtain ⟨y, got, rfl⟩ := Option.map_eq_some_iff.1 old
      rw [Sources.source, got] at read
      rw [Option.some.inj (Except.ok.inj read)]
    · rw [text?, Assoc.get?_set_self, Option.map_some]
    · intro f t other old
      rw [text?, Assoc.get?_set_of_ne _ _ other]
      exact old

/-- What one issue keeps, a batch keeps. -/
theorem fixAll_induction {P : Session → Prop} (step : ∀ s i, P s → P (s.fixIssue d here i).1) {is : List Issue}
    (start : P s) : P (s.fixAll d here is).1 := by
  induction is generalizing s with
  | nil => exact start
  | cons i is ih =>
    have first := step s i start
    rw [fixAll]
    split
    · next run => rwa [run] at first
    · next run =>
      rw [run] at first
      exact ih first

/-- Writing changes nothing of a session but the files that count as written: those whose write succeeded. -/
theorem writeAll_keeps (s : Session) (d : Disk) (here : Path) (now : Decimal) (files : List String) :
    ∃ written, (s.writeAll d here now files).1 = { s with written } ∧
      ∀ f, f ∈ written ↔ f ∈ s.written ∨ (f, .ok ()) ∈ (s.writeAll d here now files).2.2.1 := by
  induction files generalizing s d with
  | nil => exact ⟨s.written, rfl, fun f => by simp [writeAll]⟩
  | cons file files ih =>
    rw [writeAll]
    split
    · exact ih s d
    · exact ⟨s.written, rfl, fun f => by simp⟩
    · obtain ⟨written, eq, mem⟩ := ih s d
      exact ⟨written, eq, fun f => by simp [mem f]⟩
    · next d₁ _ =>
      obtain ⟨written, eq, mem⟩ := ih { s with written := file :: s.written } d₁
      refine ⟨written, eq, fun f => ?_⟩
      simp only [mem f, List.mem_cons, Prod.mk.injEq, and_true]
      tauto

/-- Only a file that the session has a text of is written. -/
theorem text?_of_written {files : List String} (wrote : (file, .ok ()) ∈ (s.writeAll d here now files).2.2.1) :
    ∃ text, s.text? file = some text := by
  induction files generalizing s d with
  | nil => cases wrote
  | cons f files ih =>
    rw [writeAll] at wrote
    split at wrote
    · exact ih wrote
    · cases wrote
    · simp only [List.mem_cons, Prod.mk.injEq, reduceCtorEq, and_false, false_or] at wrote
      exact ih wrote
    · next held =>
      rcases List.mem_cons.1 wrote with same | later
      · obtain ⟨source, got, -⟩ := Option.map_eq_some_iff.1 held
        obtain ⟨rfl, -⟩ := Prod.mk.inj same
        exact ⟨source.text, by rw [text?, got, Option.map_some]⟩
      · exact ih (s := { s with written := f :: s.written }) later

/-- The disk has the text of a file, in the encoding of the file. -/
def OnDisk (s : Session) (d : Disk) (here : Path) (file : String) : Prop :=
  ∃ source bytes, Assoc.get? s.files file = some source ∧ source.codec.encode s.codecs source.text = .ok bytes ∧
    d.read (here.resolve (Path.ofString file)) = .ok bytes

theorem writeFile_eq {g : Registry} {source : SourceFile} {d' : Disk} (wrote : writeFile g d here now file source = .ok d') :
    ∃ bytes, source.codec.encode g source.text = .ok bytes ∧ (here.resolve (Path.ofString file)).names ≠ [] ∧
      d' = d.put (here.resolve (Path.ofString file)) (.file bytes now) := by
  rw [writeFile] at wrote
  split at wrote
  · cases wrote
  · cases wrote
  · next bytes encoded =>
    rw [Disk.write] at wrote
    by_cases directory : d.isDirectory (here.resolve (Path.ofString file)) = true
    · simp only [directory, if_true, reduceCtorEq] at wrote
    · have below : (here.resolve (Path.ofString file)).names ≠ [] := fun root =>
        directory (by simp [Disk.isDirectory, Disk.get?, root])
      by_cases there : d.isDirectory (here.resolve (Path.ofString file)).parent = true
      · simp only [directory, there, if_true] at wrote
        exact ⟨bytes, encoded, below, (Except.ok.inj wrote).symm⟩
      · simp only [directory, there, if_false, reduceCtorEq] at wrote

theorem OnDisk.put {p : Path} {e : Entry} (held : s.OnDisk d here file)
    (other : (here.resolve (Path.ofString file)).names ≠ p.names) : s.OnDisk (d.put p e) here file := by
  obtain ⟨source, bytes, got, encoded, read⟩ := held
  refine ⟨source, bytes, got, encoded, ?_⟩
  rw [Disk.read] at read ⊢
  rw [Disk.get?_put_of_ne e other]
  split at read
  · exact read
  · cases read
  · cases read

/-- After a write that succeeds the disk has the text of the file, or that of another file which was written later and leads
to the same place. -/
theorem exists_onDisk_writeAll {files : List String}
    (held : s.OnDisk d here file ∨ (file, .ok ()) ∈ (s.writeAll d here now files).2.2.1) :
    ∃ last, (last = file ∨ last ∈ files) ∧
      (here.resolve (Path.ofString last)).names = (here.resolve (Path.ofString file)).names ∧
      s.OnDisk (s.writeAll d here now files).2.1 here last := by
  induction files generalizing s d file with
  | nil => exact ⟨file, Or.inl rfl, rfl, held.resolve_right nofun⟩
  | cons f files ih =>
    have more : ∀ {last}, last = file ∨ last ∈ files → last = file ∨ last ∈ f :: files := fun among =>
      among.imp_right (List.mem_cons_of_mem f)
    cases got : (Assoc.get? s.files f).map (writeFile s.codecs d here now f) with
    | none =>
      simp only [writeAll, got] at held ⊢
      obtain ⟨last, among, rest⟩ := ih held
      exact ⟨last, more among, rest⟩
    | some result =>
      rcases result with (reason | stop) | d₁
      · simp only [writeAll, got] at held ⊢
        have later : s.OnDisk d here file ∨ (file, .ok ()) ∈ (s.writeAll d here now files).2.2.1 := by
          refine held.imp_right fun mem => (List.mem_cons.1 mem).resolve_left ?_
          nofun
        obtain ⟨last, among, rest⟩ := ih later
        exact ⟨last, more among, rest⟩
      · simp only [writeAll, got] at held ⊢
        exact ⟨file, Or.inl rfl, rfl, held.resolve_right nofun⟩
      · simp only [writeAll, got] at held ⊢
        obtain ⟨source, source_of, wrote⟩ := Option.map_eq_some_iff.1 got
        obtain ⟨bytes, encoded, below, rfl⟩ := writeFile_eq wrote
        by_cases same : (here.resolve (Path.ofString f)).names = (here.resolve (Path.ofString file)).names
        · have put : s.OnDisk (d.put (here.resolve (Path.ofString f)) (.file bytes now)) here f :=
            ⟨source, bytes, source_of, encoded, by rw [Disk.read, Disk.get?_put_self _ below rfl]⟩
          obtain ⟨last, among, place, rest⟩ := ih (s := { s with written := f :: s.written }) (Or.inl put)
          exact ⟨last, Or.inr (List.mem_cons.2 among), place.trans same, rest⟩
        · have kept : s.OnDisk d here file → s.OnDisk (d.put (here.resolve (Path.ofString f)) (.file bytes now)) here file :=
            fun old => old.put fun eq => same eq.symm
          have later := held.imp kept fun mem =>
            (List.mem_cons.1 mem).resolve_left fun eq => same (by rw [(Prod.mk.inj eq).1])
          obtain ⟨last, among, rest⟩ := ih (s := { s with written := f :: s.written }) later
          exact ⟨last, more among, rest⟩

/-- A write that succeeds has put the text of the file on the disk. There it stays while other files are written, as
long as none of them leads to its place. -/
theorem onDisk_writeAll {files : List String}
    (alone : ∀ f ∈ files, (here.resolve (Path.ofString f)).names = (here.resolve (Path.ofString file)).names → f = file)
    (held : s.OnDisk d here file ∨ (file, .ok ()) ∈ (s.writeAll d here now files).2.2.1) :
    s.OnDisk (s.writeAll d here now files).2.1 here file := by
  obtain ⟨last, rfl | among, place, rest⟩ := exists_onDisk_writeAll held
  · exact rest
  · rwa [alone last among place] at rest

/-- The texts of the files whose write succeeded. -/
def putTexts (s : Session) (written : Written) : List (String × String) :=
  written.filterMap fun w => match w.2 with
    | .ok _ => (s.text? w.1).map (w.1, ·)
    | .error _ => none

theorem get?_putTexts_of_mem {text : String} {w : Written} (held : s.text? file = some text) (wrote : (file, .ok ()) ∈ w) :
    Assoc.get? (s.putTexts w) file = some text := by
  induction w with
  | nil => cases wrote
  | cons x w ih =>
    obtain ⟨f, e | u⟩ := x
    · exact ih ((List.mem_cons.1 wrote).resolve_left nofun)
    · by_cases same : f = file
      · rw [putTexts, List.filterMap_cons, same, held]
        simp [Assoc.get?]
      · have later := ih ((List.mem_cons.1 wrote).resolve_left fun eq => same (Prod.mk.inj eq).1.symm)
        rw [putTexts, List.filterMap_cons]
        cases s.text? f with
        | none => exact later
        | some t =>
          rw [Option.map_some, Assoc.get?, if_neg (by simpa using same)]
          exact later

theorem get?_putTexts_of_not_mem {w : Written} (unwritten : (file, .ok ()) ∉ w) :
    Assoc.get? (s.putTexts w) file = none := by
  cases got : Assoc.get? (s.putTexts w) file with
  | none => rfl
  | some text =>
    obtain ⟨p, mem, key⟩ := List.mem_map.1 (Assoc.mem_keys_of_get? got)
    obtain ⟨⟨f, e | u⟩, from_, eq⟩ := List.mem_filterMap.1 mem
    · cases eq
    · obtain ⟨t, -, rfl⟩ := Option.map_eq_some_iff.1 eq
      obtain rfl : f = file := key
      exact absurd from_ unwritten

end Session

/-- One of the calls that a session takes. -/
inductive Call where
  | fixIssue (i : Issue)
  | fixIssues (is : List Issue)
  | apply (now : Decimal)
  | clear

/-- A call, and the disk that it finds: which files can be read and written may differ each time. -/
structure Turn where
  disk : Disk
  call : Call

/-- A session, with the texts that its writes have put on the disk, the last one first. -/
structure Ledger where
  session : Session
  put : List (String × String) := []

namespace Ledger

/-- A session that writes, with the fixer for imports, on a platform with these encodings. -/
def start (g : Registry) : Ledger := { session := .fresh false g }

def step (here : Path) (l : Ledger) (t : Turn) : Ledger :=
  match t.call with
  | .fixIssue i => { l with session := (l.session.fixIssue t.disk here i).1 }
  | .fixIssues is => { l with session := (l.session.fixIssues t.disk here is).1 }
  | .apply now =>
    let (session, _, written, _, _) := l.session.apply t.disk here now
    { session, put := l.session.putTexts written ++ l.put }
  | .clear => { l with session := l.session.clear }

/-- The ledger after calls. -/
def run (g : Registry) (here : Path) (turns : List Turn) : Ledger := turns.foldl (step here) (start g)

/-- How the text of a file stands to the one that was put on the disk: it is the same, or a repair that the session knows
of has left a shorter one. -/
def Since (l : Ledger) (file put text : String) : Prop :=
  text = put ∨ text.length < put.length ∧
    ∃ o ∈ l.session.outcomes, o.status = .fixed ∧ o.issue.file = file ∧ o.newText = some text

theorem Since.mono {l m : Ledger} {file put text : String} (since : l.Since file put text)
    (more : l.session.outcomes ⊆ m.session.outcomes) : m.Since file put text := by
  apply since.imp_right
  rintro ⟨shorter, o, mem, rest⟩
  exact ⟨shorter, o, more mem, rest⟩

theorem Since.length_le {l : Ledger} {file put text : String} (since : l.Since file put text) : text.length ≤ put.length := by
  rcases since with rfl | ⟨shorter, -⟩
  · exact le_refl _
  · omega

/-- What all calls keep. Between the last write of a file and its text now there are repairs that the session knows of. -/
structure Sound (l : Ledger) : Prop where
  wet : l.session.dryRun = false
  builtIn : l.session.known = [(importFixer.name, importFixer)]
  repairs : ∀ o ∈ l.session.outcomes, o.status = .fixed →
    ∃ text, l.session.text? o.issue.file = some text ∧ o.ContainedIn text
  written : ∀ file ∈ l.session.written,
    ∃ put text, Assoc.get? l.put file = some put ∧ l.session.text? file = some text ∧ l.Since file put text

namespace Sound

variable {l : Ledger} {d : Disk} {here : Path}

/-- Taking an issue: a repair goes on from the text that the repairs before it have led to. -/
theorem of_effect {s : Session} {i : Issue} (sound : Sound l) (wet : s.dryRun = l.session.dryRun)
    (known : s.known = l.session.known) (same : s.written = l.session.written) (effect : l.session.Effect i s) :
    Sound { l with session := s } := by
  cases effect with
  | quiet more unfixed outcomes texts =>
    refine ⟨wet.trans sound.wet, known.trans sound.builtIn, ?_, ?_⟩
    · intro o mem fixed
      have old : o ∈ l.session.outcomes := by
        rw [outcomes] at mem
        exact (List.mem_append.1 mem).resolve_right fun new => unfixed o new fixed
      obtain ⟨text, held, contained⟩ := sound.repairs o old fixed
      exact ⟨text, texts _ _ held, contained⟩
    · intro file mem
      obtain ⟨put, text, last, held, since⟩ := sound.written file (same ▸ mem)
      exact ⟨put, text, last, texts _ _ held, since.mono (outcomes ▸ List.subset_append_left _ _)⟩
  | repaired old new changed outcomes before after others =>
    have status : (repairImport i old).status = .fixed := by
      have fixed := isSome_newText_repairImport i old
      rw [changed] at fixed
      exact of_decide_eq_true fixed.symm
    have step : ∀ {text}, l.session.text? i.file = some text → Leads text new := fun held =>
      before _ held ▸ Relation.ReflTransGen.single ⟨i, changed⟩
    refine ⟨wet.trans sound.wet, known.trans sound.builtIn, ?_, ?_⟩
    · intro o mem fixed
      rw [outcomes] at mem
      rcases List.mem_append.1 mem with earlier | this
      · obtain ⟨text, held, made, eq, leads⟩ := sound.repairs o earlier fixed
        by_cases here : o.issue.file = i.file
        · rw [here] at held ⊢
          exact ⟨new, after, made, eq, leads.trans (step held)⟩
        · exact ⟨text, others _ _ here held, made, eq, leads⟩
      · obtain rfl := List.mem_singleton.1 this
        rw [issue_repairImport]
        exact ⟨new, after, new, changed, .refl⟩
    · intro file mem
      obtain ⟨put, text, last, held, since⟩ := sound.written file (same ▸ mem)
      by_cases here : file = i.file
      · have most := since.length_le
        have shorter : new.length < text.length := by
          rw [here] at held
          rw [before text held]
          exact length_lt_of_repairImport changed
        refine ⟨put, new, last, here ▸ after, Or.inr ⟨by omega, repairImport i old, ?_, status, ?_, changed⟩⟩
        · rw [outcomes]
          exact List.mem_append_right _ List.mem_cons_self
        · rw [issue_repairImport, here]
      · exact ⟨put, text, last, others _ _ here held, since.mono (outcomes ▸ List.subset_append_left _ _)⟩

theorem fixIssue (sound : Sound l) (i : Issue) : Sound { l with session := (l.session.fixIssue d here i).1 } := by
  obtain ⟨wet, known, written, effect⟩ := Session.fixIssue_effect sound.builtIn d here i
  exact sound.of_effect wet known written effect

theorem fixIssues (sound : Sound l) (is : List Issue) : Sound { l with session := (l.session.fixIssues d here is).1 } :=
  Session.fixAll_induction (P := fun s => Sound { l with session := s }) (fun _ i kept => fixIssue kept i) sound

theorem apply_eq (sound : Sound l) (here : Path) (now : Decimal) :
    l.session.apply d here now = l.session.writeAll d here now l.session.modifiedFiles := if_neg (by simp [sound.wet])

theorem apply (sound : Sound l) (now : Decimal) : Sound (l.step here ⟨d, .apply now⟩) := by
  obtain ⟨written, eq, mem⟩ := l.session.writeAll_keeps d here now l.session.modifiedFiles
  simp only [Ledger.step, sound.apply_eq, eq]
  refine ⟨sound.wet, sound.builtIn, sound.repairs, ?_⟩
  intro file listed
  by_cases wrote : (file, .ok ()) ∈ (l.session.writeAll d here now l.session.modifiedFiles).2.2.1
  · obtain ⟨text, held⟩ := Session.text?_of_written wrote
    have put := Session.get?_putTexts_of_mem held wrote
    exact ⟨text, text, by rw [Assoc.get?_append, put, Option.some_or], held, Or.inl rfl⟩
  · obtain ⟨put, text, last, rest⟩ := sound.written file (((mem file).1 listed).resolve_right wrote)
    have none := Session.get?_putTexts_of_not_mem (s := l.session) wrote
    exact ⟨put, text, by rw [Assoc.get?_append, none, Option.none_or, last], rest⟩

/-- Where nothing has been done, there is nothing to account for. -/
theorem of_empty (wet : l.session.dryRun = false) (builtIn : l.session.known = [(importFixer.name, importFixer)])
    (outcomes : l.session.outcomes = []) (written : l.session.written = []) : Sound l :=
  ⟨wet, builtIn, by simp [outcomes], by simp [written]⟩

theorem clear (sound : Sound l) : Sound { l with session := l.session.clear } :=
  of_empty sound.wet sound.builtIn rfl rfl

theorem step (sound : Sound l) (t : Turn) : Sound (l.step here t) := by
  obtain ⟨d, call⟩ := t
  cases call with
  | fixIssue i => exact sound.fixIssue i
  | fixIssues is => exact sound.fixIssues is
  | apply now => exact sound.apply now
  | clear => exact sound.clear

theorem run (g : Registry) (here : Path) (turns : List Turn) : Sound (Ledger.run g here turns) := by
  have start : Sound (start g) := of_empty rfl rfl rfl rfl
  rw [Ledger.run]
  generalize Ledger.start g = l at start
  induction turns generalizing l with
  | nil => exact start
  | cons t turns ih => exact ih _ (start.step t)

end Sound

/-- A write that succeeds puts the text that the session has on the disk, in the encoding of the file, unless another
changed file leads to the same place; and the ledger has it from then on. -/
theorem put_of_written (g : Registry) (here : Path) (turns : List Turn) {d : Disk} {now : Decimal} {file : String}
    (wrote : (file, .ok ()) ∈ ((run g here turns).session.apply d here now).2.2.1) :
    Assoc.get? (run g here (turns ++ [⟨d, .apply now⟩])).put file = (run g here turns).session.text? file ∧
      ((∀ f ∈ (run g here turns).session.modifiedFiles,
          (here.resolve (Path.ofString f)).names = (here.resolve (Path.ofString file)).names → f = file) →
        (run g here turns).session.OnDisk ((run g here turns).session.apply d here now).2.1 here file) := by
  have step : run g here (turns ++ [⟨d, .apply now⟩]) = (run g here turns).step here ⟨d, .apply now⟩ := by
    rw [run, List.foldl_append]
    rfl
  have applied := (Sound.run g here turns).apply_eq (d := d) here now
  rw [applied] at wrote ⊢
  obtain ⟨text, held⟩ := Session.text?_of_written wrote
  refine ⟨?_, fun alone => Session.onDisk_writeAll alone (Or.inr wrote)⟩
  simp only [step, Ledger.step, applied]
  rw [Assoc.get?_append, Session.get?_putTexts_of_mem held wrote, held, Option.some_or]

/-- The repair is in the text that was last put on the disk for its file. -/
def Reached (l : Ledger) (o : Outcome) : Prop := ∃ text, Assoc.get? l.put o.issue.file = some text ∧ o.ContainedIn text

/-- **The repairs that are told of.** Of a file that has been written, they are all on the disk exactly if the text that
the session has is the one that was last put there; of other files none is told. -/
theorem fixedIssues_reached_iff (g : Registry) (here : Path) (turns : List Turn) :
    let l := run g here turns
    l.session.fixedIssues = l.session.told.map (·.issue) ∧ (∀ o ∈ l.session.told, o.issue.file ∈ l.session.written) ∧
      ∀ file ∈ l.session.written, (∀ o ∈ l.session.told, o.issue.file = file → l.Reached o) ↔
        l.session.text? file = Assoc.get? l.put file := by
  intro l
  have sound : Sound l := .run g here turns
  refine ⟨if_neg (by simp [sound.wet]), fun o mem => (Session.mem_told.1 mem).2.2, ?_⟩
  intro file written
  constructor
  · intro reached
    obtain ⟨put, text, last, held, rfl | ⟨shorter, o, mem, fixed, rfl, new⟩⟩ := sound.written file written
    · rw [held, last]
    · -- The last repair left a text that is shorter than the one on the disk, and repairs make no text longer.
      obtain ⟨_, eq, new', new'', leads⟩ := reached o (Session.mem_told.2 ⟨mem, fixed, written⟩) rfl
      obtain rfl := Option.some.inj (last.symm.trans eq)
      obtain rfl := Option.some.inj (new.symm.trans new'')
      have longer := leads.length_le
      omega
  · rintro same o mem rfl
    obtain ⟨outcome, fixed, -⟩ := Session.mem_told.1 mem
    obtain ⟨text, held, contained⟩ := sound.repairs o outcome fixed
    exact ⟨text, same ▸ held, contained⟩

/-- An import in the one file of `twoImports`. -/
def importIssue (symbol : String) (line : Int) : Issue := ⟨Rule.imports.label, symbol, "a.php", line, .warning, "", none⟩

def twoImports : Disk where
  entries := [(["a.php"], .file (Utf8.encode "<?php\nuse A;\nuse B;\n") default)]

/-- Both imports are taken away before the file is written. -/
def writtenAfter : List Turn :=
  [⟨twoImports, .fixIssue (importIssue "B" 3)⟩, ⟨twoImports, .fixIssue (importIssue "A" 2)⟩, ⟨twoImports, .apply default⟩]

theorem fixedIssues_reached_writtenAfter :
    (run {} {} writtenAfter).session.fixedIssues = [importIssue "B" 3, importIssue "A" 2] ∧
      ∀ o ∈ (run {} {} writtenAfter).session.told, (run {} {} writtenAfter).Reached o := by
  have issues : (run {} {} writtenAfter).session.fixedIssues = [importIssue "B" 3, importIssue "A" 2] := by decide +kernel
  have file : ∀ o ∈ (run {} {} writtenAfter).session.told, o.issue.file = "a.php" := by decide +kernel
  obtain ⟨-, -, each⟩ := fixedIssues_reached_iff {} {} writtenAfter
  have reached := (each "a.php" (by decide +kernel)).2 (by decide +kernel)
  exact ⟨issues, fun o mem => reached o mem (file o mem)⟩

/-- The first import is taken away after the file was written. -/
def writtenBetween : List Turn :=
  [⟨twoImports, .fixIssue (importIssue "B" 3)⟩, ⟨twoImports, .apply default⟩, ⟨twoImports, .fixIssue (importIssue "A" 2)⟩]

/-- A repair that was made after the write is told of, and the disk does not have it. -/
theorem fixedIssues_unreached_writtenBetween :
    importIssue "A" 2 ∈ (run {} {} writtenBetween).session.fixedIssues ∧
      ∀ o ∈ (run {} {} writtenBetween).session.told, o.issue = importIssue "A" 2 → ¬(run {} {} writtenBetween).Reached o := by
  have put : Assoc.get? (run {} {} writtenBetween).put "a.php" = some "<?php\nuse A;\n" := by decide +kernel
  have made : ∀ o ∈ (run {} {} writtenBetween).session.told, o.issue = importIssue "A" 2 → o.newText = some "<?php\n" := by
    decide +kernel
  refine ⟨by decide +kernel, ?_⟩
  rintro o mem issue ⟨text, last, new, eq, leads⟩
  rw [issue] at last
  obtain rfl := Option.some.inj (put.symm.trans last)
  obtain rfl := Option.some.inj ((made o mem issue).symm.trans eq)
  exact absurd leads.length_le (by decide +kernel)

end Ledger

end DeadCode.Fix
