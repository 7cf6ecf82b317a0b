import DeadCode.Proofs.DetectedText
import DeadCode.Proofs.WrittenLines

/-!
# Byte order marks of written files

A file that starts with a byte order mark is read in an encoding that takes the mark away, and the session keeps only the
name of that encoding. UTF-16 and UTF-32 under these names are written with the low byte first. So a repaired file has its
mark and its byte order again, unless the high byte came first: then it is turned around
(`apply_keeps_mark_iff`).
-/

namespace DeadCode
set_option autoImplicit false

/-- The encoding that a byte order mark is taken for, if its text has the given byte order. -/
def Codec.marked : Codec → Codec
  | utf8 => utf8Marked
  | utf16Little | utf16Big => utf16
  | utf32Little | utf32Big => utf32
  | c => c

/-- Does the high byte come first? -/
def Codec.isHighFirst (c : Codec) : Bool := c = .utf16Big || c = .utf32Big

/-- The encoding with the low byte first. -/
def Codec.lowFirst : Codec → Codec
  | utf16Big => utf16Little
  | utf32Big => utf32Little
  | c => c

namespace Encoding

/-- The bytes start with the mark, and the others are the text in the byte order of the mark. -/
def Carries (mark : List UInt8 × Codec) (text : String) (bytes : List UInt8) : Prop :=
  ∃ rest, bytes = mark.1 ++ rest ∧ mark.2.decode rest = .ok text

/-- The mark is the one that the bytes start with. The mark of UTF-32 with the low byte first starts like that of UTF-16, so
the longest one counts. -/
def MarkedBy (bytes : List UInt8) (mark : List UInt8 × Codec) : Prop :=
  mark.1 <+: bytes ∧ ∀ other ∈ unicodeMarks, other.1 <+: bytes → other.1.length ≤ mark.1.length

section Marks

variable {g : Registry} {bytes : List UInt8} {mark : List UInt8 × Codec} {text : String}

theorem detect_of_markedBy (listed : mark ∈ unicodeMarks) (marked : MarkedBy bytes mark) :
    detect g bytes = .ok (some ⟨.known mark.2.marked, mark.2.marked.label⟩) := by
  suffices first : (marks.find? fun m => m.1.isPrefixOf bytes) = some (mark.1, mark.2.marked) from detect_of_mark first
  obtain ⟨⟨rest, rfl⟩, longest⟩ := marked
  simp only [unicodeMarks, List.mem_cons, List.not_mem_nil, or_false] at listed
  rcases listed with rfl | rfl | rfl | rfl | rfl
  · rfl
  · -- The mark of UTF-32 goes on with two zeros, and is looked for first.
    have short : ¬[0, 0] <+: rest := by
      rintro ⟨more, eq⟩
      have long := longest ([0xff, 0xfe, 0, 0], .utf32Little) (by decide) ⟨more, by simp [← eq]⟩
      exact absurd long (by decide)
    have other : [0, 0].isPrefixOf rest = false := by rwa [← Bool.not_eq_true, List.isPrefixOf_iff_prefix]
    simp only [marks, List.cons_append, List.nil_append, List.find?_cons, List.isPrefixOf, other, beq_self_eq_true,
      Bool.true_and, Bool.and_false]
    rfl
  · rfl
  · rfl
  · rfl

theorem decode_of_readsBack {read : UInt8 → List UInt8 → Reading} {write : Char → List UInt8}
    (back : ReadsBack read write) (s : String) :
    (decodeBy read (s.toList.flatMap write).length 0 (s.toList.flatMap write) []).map String.ofList = .ok s := by
  rw [back.decodeBy s.toList 0 [] (back.length_le s.toList)]
  simp [Except.map]

/-- What is written for a file with a mark: the mark of the encoding with the low byte first, and the text. -/
theorem encode_marked (listed : mark ∈ unicodeMarks) (text : String) :
    ∃ bytes, mark.2.marked.encode text = .ok bytes ∧
      ∃ low ∈ unicodeMarks, low.2 = mark.2.lowFirst ∧ Carries low text bytes := by
  have order16 := decode_of_readsBack (Wide.readsBack16 .little) text
  have order32 := decode_of_readsBack (Wide.readsBack32 .little) text
  simp only [unicodeMarks, List.mem_cons, List.not_mem_nil, or_false] at listed
  rcases listed with rfl | rfl | rfl | rfl | rfl
  · refine ⟨_, rfl, ([0xef, 0xbb, 0xbf], .utf8), by decide, rfl, Utf8.encode text, rfl, ?_⟩
    rw [Codec.decode_utf8, Utf8.decode_encode]
  · exact ⟨_, rfl, ([0xff, 0xfe], .utf16Little), by decide, rfl, _, rfl, order16⟩
  · exact ⟨_, rfl, ([0xff, 0xfe], .utf16Little), by decide, rfl, _, rfl, order16⟩
  · exact ⟨_, rfl, ([0xff, 0xfe, 0, 0], .utf32Little), by decide, rfl, _, rfl, order32⟩
  · exact ⟨_, rfl, ([0xff, 0xfe, 0, 0], .utf32Little), by decide, rfl, _, rfl, order32⟩

theorem unicodeMarks_inj : ∀ m ∈ unicodeMarks, ∀ n ∈ unicodeMarks, m.2 = n.2 → m = n := by decide

theorem lowFirst_eq_iff (c : Codec) : c.lowFirst = c ↔ c.isHighFirst = false := by
  cases c <;> decide

/-- No mark with the high byte first starts like the other one of its kind. -/
theorem take_mark_ne_of_lowFirst : ∀ mark ∈ unicodeMarks, mark.2.isHighFirst = true →
    ∀ low ∈ unicodeMarks, low.2 = mark.2.lowFirst → mark.1.take 2 ≠ low.1.take 2 ∧ 2 ≤ mark.1.length ∧ 2 ≤ low.1.length := by
  decide

/-- Bytes with a mark of the low byte first have the given mark exactly if it is that one. -/
theorem carries_iff (listed : mark ∈ unicodeMarks) {low : List UInt8 × Codec} (among : low ∈ unicodeMarks)
    (order : low.2 = mark.2.lowFirst) (carries : Carries low text bytes) :
    Carries mark text bytes ↔ mark.2.isHighFirst = false := by
  constructor
  · rintro ⟨rest, rfl, -⟩
    obtain ⟨rest', eq, -⟩ := carries
    by_contra high
    obtain ⟨apart, long, long'⟩ := take_mark_ne_of_lowFirst mark listed (Bool.of_not_eq_false high) low among order
    have heads := congrArg (List.take 2) eq
    rw [List.take_append_of_le_length long, List.take_append_of_le_length long'] at heads
    exact apart heads
  · intro high
    have same : low = mark := unicodeMarks_inj low among mark listed (order.trans ((lowFirst_eq_iff mark.2).2 high))
    rwa [← same]

end Marks

end Encoding

namespace Fix

open Encoding

namespace Sources

variable {files : Sources} {g : Registry} {d : Disk} {here : Path}

/-- The files that were read from the disk have their encodings from there. -/
def Coded (g : Registry) (d : Disk) (here : Path) (files : Sources) : Prop :=
  ∀ f x, Assoc.get? files f = some x → ∃ y, Session.fetch g d here f = .ok (some y) ∧ y.codec = x.codec

theorem Coded.source (coded : Coded g d here files) {f : String} {x : SourceFile}
    (read : files.source g d here f = .ok (some x)) : ∃ y, Session.fetch g d here f = .ok (some y) ∧ y.codec = x.codec := by
  rw [Sources.source] at read
  split at read
  · next held =>
    obtain rfl := Option.some.inj (Except.ok.inj read)
    exact coded f _ held
  · exact ⟨x, read, rfl⟩

theorem Coded.set (coded : Coded g d here files) {f : String} {x z : SourceFile}
    (read : files.source g d here f = .ok (some x)) (same : z.codec = x.codec) : Coded g d here (Assoc.set files f z) := by
  intro g w held
  by_cases own : g = f
  · rw [own, Assoc.get?_set_self] at held
    obtain rfl := Option.some.inj held
    obtain ⟨y, fetched, codec⟩ := coded.source read
    exact ⟨y, own ▸ fetched, codec.trans same.symm⟩
  · rw [Assoc.get?_set_of_ne _ _ own] at held
    exact coded g w held

/-- One issue: a repair changes a text and not its encoding. -/
theorem Coded.take (coded : Coded g d here files) (i : Issue) : Coded g d here (files.take g d here i).1 := by
  have ends := take_ends files g d here i
  generalize (files.take g d here i).1 = files', (files.take g d here i).2 = result at ends
  cases ends with
  | stopped => exact coded
  | early => exact coded
  | kept x _ read _ => exact coded.set read rfl
  | repaired x text _ read _ => exact coded.set read rfl

end Sources

namespace Session

variable {g : Registry} {d disk : Disk} {here : Path} {now : Decimal} {file : String} {bytes : List UInt8} {mark : List UInt8 × Codec}

theorem coded_fixIssues (dryRun : Bool) (g : Registry) (d : Disk) (here : Path) (issues : List Issue) :
    Sources.Coded g d here ((fresh dryRun g).fixIssues d here issues).1.files := by
  have kept : ((fresh dryRun g).fixIssues d here issues).1.known = [(importFixer.name, importFixer)] ∧
      ((fresh dryRun g).fixIssues d here issues).1.codecs = g ∧
      Sources.Coded g d here ((fresh dryRun g).fixIssues d here issues).1.files := by
    apply fixAll_induction
      (P := fun s => s.known = [(importFixer.name, importFixer)] ∧ s.codecs = g ∧ Sources.Coded g d here s.files)
    · rintro s i ⟨builtIn, rfl, coded⟩
      rw [fixIssue_eq builtIn]
      exact ⟨builtIn, rfl, coded.take i⟩
    · exact ⟨rfl, rfl, nofun⟩
  exact kept.2.2

/-- A file that was read has the encoding that its mark is taken for. -/
theorem codec_of_markedBy {y : SourceFile} (listed : mark ∈ unicodeMarks) (marked : MarkedBy bytes mark)
    (read : d.read (here.resolve (Path.ofString file)) = .ok bytes) (fetched : fetch g d here file = .ok (some y)) :
    y.codec = .known mark.2.marked := by
  have clean : '\x00' ∉ file.toList := fun null => by
    have stop : file.toList.contains '\x00' = true := by simpa using null
    simp only [fetch, stop, if_true, reduceCtorEq] at fetched
  rw [fetch_of_detect clean read (detect_of_markedBy listed marked)] at fetched
  split at fetched
  · cases fetched
  · cases fetched
  · obtain rfl := Option.some.inj (Except.ok.inj fetched)
    rfl

theorem modifiedText_of_changed {s : Session} {x : SourceFile} (held : Assoc.get? s.files file = some x)
    (changed : Sources.Changed s.files file) : s.modifiedText file = some x.text := by
  obtain ⟨y, got, modified⟩ := changed
  obtain rfl := Option.some.inj (held.symm.trans got)
  simp only [modifiedText, held, modified, if_true]

/-- **A written file has its byte order mark again exactly if the low byte comes first.** After any batch with a repair of a
file that starts with a byte order mark, a successful write leaves at its place the changed text of the file, or of one
that leads to the same place. The bytes have the old mark and the old byte order if the high byte did not come first;
otherwise they have the mark and the order of the encoding with the low byte first. -/
theorem apply_keeps_mark_iff (g : Registry) {s : Session} {issues : List Issue} (batch : ((fresh false g).fixIssues d here issues).1 = s)
    (read : d.read (here.resolve (Path.ofString file)) = .ok bytes) (listed : mark ∈ unicodeMarks)
    (marked : MarkedBy bytes mark) (fixed : ∃ o ∈ s.outcomes, o.status = .fixed ∧ o.issue.file = file)
    (wrote : (file, .ok ()) ∈ (s.apply disk here now).2.2.1) :
    ∃ last text bytes', (here.resolve (Path.ofString last)).names = (here.resolve (Path.ofString file)).names ∧
      s.modifiedText last = some text ∧
      (s.apply disk here now).2.1.read (here.resolve (Path.ofString file)) = .ok bytes' ∧
      (Carries mark text bytes' ↔ mark.2.isHighFirst = false) ∧
      ∃ low ∈ unicodeMarks, low.2 = mark.2.lowFirst ∧ Carries low text bytes' := by
  have coded : Sources.Coded g d here s.files := batch ▸ coded_fixIssues false g d here issues
  obtain ⟨wet, codecs⟩ : s.dryRun = false ∧ s.codecs = g := by
    rw [← batch, fixIssues, fixAll_eq rfl]
    exact ⟨rfl, rfl⟩
  have sound : Journal.Sound here s ([] ++ (fresh false g).takings here d (inOrder issues)) := by
    have new : Journal.Sound here (fresh false g) [] := .of_empty rfl rfl rfl
    rw [← batch]
    exact new.fixAll d (inOrder issues)
  rw [apply, if_neg (by simp [wet])] at wrote ⊢
  -- Names that lead to one place were read from the same bytes, so it does not matter which of them was written last.
  obtain ⟨last, among, place, source, bytes', held, encoded, back⟩ := exists_onDisk_writeAll (Or.inr wrote)
  have changed : Sources.Changed s.files last := by
    rcases among with rfl | among
    · exact (sound.changed last).2 fixed
    · exact (mem_modifiedFiles sound.distinct).1 among
  obtain ⟨y, fetched, codec⟩ := coded last source held
  rw [← codec, codec_of_markedBy listed marked ((Disk.read_congr place).trans read) fetched, codecs,
    Charset.encode_known_eq_ok] at encoded
  obtain ⟨_, eq, low, lowListed, order, carries⟩ := encode_marked listed source.text
  obtain rfl := Except.ok.inj (encoded.symm.trans eq)
  refine ⟨last, source.text, bytes', place, modifiedText_of_changed held changed, ?_,
    carries_iff listed lowListed order carries, low, lowListed, order, carries⟩
  rw [← back, Disk.read_congr place]

/-- A file in UTF-16 with its mark, and with an import on the second line. -/
def wideBytes (order : Wide.Order) : List UInt8 :=
  order.bytes 2 0xfeff ++ "<?php\nuse A;\n// é\n".toList.flatMap (Wide.write16 order)

def wideDisk (order : Wide.Order) : Disk where
  entries := [(["a.php"], .file (wideBytes order) default)]
  distinct := List.nodup_singleton _

/-- The session after the repair of the import. -/
def wideSession (order : Wide.Order) : Session :=
  ((fresh false {}).fixIssues (wideDisk order) {} [Ledger.importIssue "A" 2]).1

theorem apply_keeps_mark_little :
    MarkedBy (wideBytes .little) ([0xff, 0xfe], .utf16Little) ∧
      ∃ last text bytes', (({} : Path).resolve (Path.ofString last)).names = ["a.php"] ∧
        (wideSession .little).modifiedText last = some text ∧
        ((wideSession .little).apply (wideDisk .little) {} default).2.1.read (Path.ofString "a.php") = .ok bytes' ∧
        Carries ([0xff, 0xfe], .utf16Little) text bytes' := by
  have read : (wideDisk .little).read (({} : Path).resolve (Path.ofString "a.php")) = .ok (wideBytes .little) := rfl
  have marked : MarkedBy (wideBytes .little) ([0xff, 0xfe], .utf16Little) := by
    rw [MarkedBy]
    decide +kernel
  have fixed : ∃ o ∈ (wideSession .little).outcomes, o.status = .fixed ∧ o.issue.file = "a.php" := by decide +kernel
  have wrote : ("a.php", .ok ()) ∈ ((wideSession .little).apply (wideDisk .little) {} default).2.2.1 := by decide +kernel
  obtain ⟨last, text, bytes', place, changed, back, same, -⟩ :=
    apply_keeps_mark_iff {} rfl read (by decide) marked fixed wrote
  exact ⟨marked, last, text, bytes', place, changed, back, same.2 rfl⟩

/-- With the high byte first, the written file has the other mark. -/
theorem apply_turns_mark_big :
    (wideBytes .big).take 2 = [0xfe, 0xff] ∧ (wideSession .big).modifiedText "a.php" = some "<?php\n// é\n" ∧
      (((wideSession .big).apply (wideDisk .big) {} default).2.1.read (Path.ofString "a.php")).toOption =
        some ([0xff, 0xfe] ++ "<?php\n// é\n".toList.flatMap (Wide.write16 .little)) := by
  decide +kernel

end Session
end Fix
end DeadCode
