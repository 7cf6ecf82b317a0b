import DeadCode.Proofs.Unrepaired

/-!
# The lines of a written file

In UTF-8 and in Latin-1 every character is written by itself, and the byte of a line feed stands for nothing else
(`Codec.Separate`). So the lines of the bytes are the lines of the text, and what a batch leaves of the one it leaves of
the other: `apply_keeps_lines` says that a written file has its old lines, byte for byte and in order, without those of the
repaired issues and without some blank ones.
-/

namespace DeadCode
set_option autoImplicit false

/-- An encoding that writes each character by itself. Characters that `fits` does not take it may lack, and the byte of a
line feed occurs in no other character. -/
structure Codec.Separate (codec : Codec) (fits : Char → Prop) (write : Char → List UInt8) : Prop where
  encode : ∀ s : String, (∀ c ∈ s.toList, fits c) → codec.encode s = .ok (s.toList.flatMap write)
  decode : ∀ s : String, (∀ c ∈ s.toList, fits c) → codec.decode (s.toList.flatMap write) = .ok s
  back : ∀ bs s, codec.decode bs = .ok s → s.toList.flatMap write = bs ∧ ∀ c ∈ s.toList, fits c
  fitsFeed : fits '\n'
  feed : write '\n' = [0x0a]
  others : ∀ c, fits c → c ≠ '\n' → 0x0a ∉ write c

section Encodings

theorem Codec.decode_utf8 (bs : List UInt8) : Codec.utf8.decode bs = Utf8.decode bs := by
  simp only [decode, decodeChars]
  cases Utf8.decode bs with
  | error f => rfl
  | ok s => simp only [Except.map, String.ofList_toList]

theorem Codec.separate_utf8 : Separate .utf8 (fun _ => True) Utf8.encodeChar where
  encode := fun _ _ => rfl
  decode := fun s _ => by
    rw [decode_utf8]
    exact Utf8.decode_encode s
  back := fun bs s read => by
    rw [decode_utf8] at read
    exact ⟨Utf8.encode_of_decode read, fun _ _ => trivial⟩
  fitsFeed := trivial
  feed := by decide
  others := fun c _ other mem => by
    rcases Nat.lt_or_ge c.toNat 0x80 with small | large
    · rw [Utf8.encodeChar_of_ascii small, List.mem_singleton] at mem
      have value : c.toNat = 10 := by
        have same := congrArg UInt8.toNat mem
        rw [Utf8.toNat_ofNat_of_lt (by omega)] at same
        exact same.symm
      exact other (Char.toNat_inj.1 value)
    · have least := (Utf8.bounds_of_mem_encodeChar large mem).1
      exact absurd least (by decide)

/-- In Latin-1 every byte is a character. -/
theorem Bytewise.decode_latin1 (bs : List UInt8) : decode 256 bs = .ok (bs.map fun b => Char.ofNat b.toNat) := by
  have run : ∀ fuel pos acc, bs.length ≤ fuel →
      decodeBy (read 256) fuel pos bs acc = .ok (acc.reverse ++ bs.map fun b => Char.ofNat b.toNat) := by
    induction bs with
    | nil => intro fuel pos acc _; cases fuel <;> simp [decodeBy]
    | cons b bs ih =>
      intro fuel pos acc enough
      obtain ⟨fuel, rfl⟩ : ∃ n, fuel = n + 1 := ⟨fuel - 1, by simp at enough; omega⟩
      have got : read 256 b bs = .char (Char.ofNat b.toNat) 1 := if_pos b.toNat_lt
      rw [decodeBy, got]
      simp only [List.drop_succ_cons, List.drop_zero]
      rw [ih fuel _ _ (by simpa using enough)]
      simp
  exact run bs.length 0 [] (Nat.le_refl _)

theorem Bytewise.encodeFrom_latin1 {cs : List Char} (fits : ∀ c ∈ cs, c.toNat < 256) (n : Nat) :
    encodeFrom 256 n cs = .ok (cs.flatMap fun c => [UInt8.ofNat c.toNat]) := by
  induction cs generalizing n with
  | nil => rfl
  | cons c cs ih =>
    rw [encodeFrom, if_pos (fits c List.mem_cons_self), ih fun d mem => fits d (List.mem_cons_of_mem c mem)]
    rfl

theorem toNat_charOf (b : UInt8) : (Char.ofNat b.toNat).toNat = b.toNat :=
  Utf8.toNat_ofNat_of_valid (Or.inl (by have := b.toNat_lt; omega))

theorem Codec.separate_latin1 : Separate .latin1 (·.toNat < 256) fun c => [UInt8.ofNat c.toNat] where
  encode := fun s fits => Bytewise.encodeFrom_latin1 fits 0
  decode := fun s fits => by
    have chars : ∀ c ∈ s.toList, Char.ofNat (UInt8.ofNat c.toNat).toNat = c := fun c mem => by
      rw [Utf8.toNat_ofNat_of_lt (fits c mem), Char.ofNat_toNat]
    have same : (s.toList.map fun c => Char.ofNat (UInt8.ofNat c.toNat).toNat) = s.toList := by
      rw [List.map_congr_left chars, List.map_id']
    rw [decode, decodeChars, Bytewise.decode_latin1, ← List.map_eq_flatMap, List.map_map, Function.comp_def, same]
    simp only [Except.map, String.ofList_toList]
  back := fun bs s read => by
    rw [decode, decodeChars, Bytewise.decode_latin1] at read
    obtain rfl := Except.ok.inj read
    rw [String.toList_ofList, List.flatMap_map, List.forall_mem_map]
    refine ⟨?_, fun b _ => ?_⟩
    · simp only [toNat_charOf, UInt8.ofNat_toNat, List.flatMap_singleton']
    · rw [toNat_charOf]
      exact b.toNat_lt
  fitsFeed := by decide
  feed := by decide
  others := fun c fits other mem => by
    have same := congrArg UInt8.toNat (List.mem_singleton.1 mem)
    rw [Utf8.toNat_ofNat_of_lt fits] at same
    exact other (Char.toNat_inj.1 same.symm)

end Encodings

section Split

variable {codec : Codec} {fits : Char → Prop} {write : Char → List UInt8}

/-- The lines of the bytes are the bytes of the lines. -/
theorem Codec.Separate.splitOn_join (separate : codec.Separate fits write) {lines : List String} (nonempty : lines ≠ [])
    (free : ∀ l ∈ lines, '\n' ∉ l.toList) (fit : ∀ l ∈ lines, ∀ c ∈ l.toList, fits c) :
    ((Text.join "\n" lines).toList.flatMap write).splitOn 0x0a = lines.map (·.toList.flatMap write) := by
  have sep : "\n".toList.flatMap write = [0x0a] := by
    rw [show "\n".toList = ['\n'] from rfl, List.flatMap_singleton, separate.feed]
  rw [Text.join, String.toList_intercalate, flatMap_intercalate, sep, List.map_map]
  refine List.splitOn_intercalate 0x0a ?_ (by simpa using nonempty)
  rw [List.forall_mem_map]
  intro l mem within
  obtain ⟨c, inside, byte⟩ := List.mem_flatMap.1 within
  have other : c ≠ '\n' := fun eq => free l mem (eq ▸ inside)
  exact separate.others c (fit l mem c inside) other byte

end Split

namespace Fix

section Thinning

variable {α β : Type} {fixed : Nat → Prop} {blank : α → Prop} {lines kept : List α}

/-- What is left of lines: the fixed ones are gone, and apart from them only blank ones. -/
def Thinned (fixed : Nat → Prop) (blank : α → Prop) (lines kept : List α) : Prop :=
  ∃ gone : Nat → Bool, kept = (lines.zipIdx.filter fun p => !gone p.2).map (·.1) ∧
    (∀ n, fixed n → gone n = true) ∧ ∀ n line, lines[n]? = some line → gone n = true → fixed n ∨ blank line

theorem Thinned.refl (none : ∀ n, ¬fixed n) (blank : α → Prop) (lines : List α) : Thinned fixed blank lines lines := by
  refine ⟨fun _ => false, ?_, fun n given => absurd given (none n), nofun⟩
  simp

theorem Thinned.map {blank' : β → Prop} (f : α → β) (blanks : ∀ line ∈ lines, blank line → blank' (f line))
    (thinned : Thinned fixed blank lines kept) : Thinned fixed blank' (lines.map f) (kept.map f) := by
  obtain ⟨gone, rfl, all, only⟩ := thinned
  refine ⟨gone, ?_, all, fun n line at_ lost => ?_⟩
  · rw [List.zipIdx_map, List.filter_map, List.map_map, List.map_map]
    rfl
  · rw [List.getElem?_map] at at_
    obtain ⟨old, found, rfl⟩ := Option.map_eq_some_iff.1 at_
    exact (only n old found lost).imp_right (blanks old (List.mem_of_getElem? found))

theorem thinned_survivors (lines : List String) (removed : Nat → Bool) :
    Thinned (fun n => removed n = true) (fun line => isBlankLine line = true) lines (survivors lines removed) := by
  refine ⟨fun n => removed n || decide (Collapses lines removed n), ?_, fun n given => by simp [given], ?_⟩
  · simp only [survivors, Bool.not_or]
  · intro n line found lost
    rcases Bool.or_eq_true_iff.1 lost with given | collapses
    · exact Or.inl given
    · have blank := (of_decide_eq_true collapses).1
      rw [blankAt, found] at blank
      exact Or.inr blank

end Thinning

section After

variable (x : SourceFile) (o : Outcome)

theorem text_after : (x.after o).text = o.newText.getD x.text := by
  rw [SourceFile.after]
  cases o.newText <;> rfl

theorem codec_after : (x.after o).codec = x.codec := by
  rw [SourceFile.after]
  cases o.newText <;> rfl

theorem modified_after (i : Issue) : (x.after (repairImport i x.text)).modified = true ↔
    x.modified = true ∨ (repairImport i x.text).status = .fixed := by
  rw [status_eq_fixed_iff, SourceFile.after]
  cases (repairImport i x.text).newText <;> simp

end After

namespace Sources

variable {files : Sources} {g : Registry} {d : Disk} {here : Path} {file : String} {x : SourceFile} {i : Issue} {is : List Issue}

/-- No other file has been read. -/
def Only (file : String) (files : Sources) : Prop := files = [] ∨ ∃ x, files = [(file, x)]

theorem Only.set (only : Only file files) (x : SourceFile) : Assoc.set files file x = [(file, x)] := by
  rcases only with rfl | ⟨y, rfl⟩
  · rfl
  · simp [Assoc.set]

theorem Only.modifiedFiles {s : Session} (only : Only file s.files)
    (read : Sources.source s.files g d here file = .ok (some x)) : s.modifiedFiles = if x.modified then [file] else [] := by
  rcases only with none | ⟨y, one⟩
  · have fetched : Session.fetch g d here file = .ok (some x) := by rw [← read, source, none]; rfl
    simp [Session.modifiedFiles, none, modified_fetch fetched, Text.sortStrings]
  · have same : y = x := by
      rw [one, source] at read
      simpa [Assoc.get?] using read
    rw [Session.modifiedFiles, one, same]
    cases changed : x.modified <;> simp [changed, Text.sortStrings]

/-- A changed file is one that has been read. -/
theorem get?_of_modified (read : files.source g d here file = .ok (some x)) (changed : x.modified = true) :
    Assoc.get? files file = some x := by
  rw [source] at read
  split at read
  · next held => rw [held, Option.some.inj (Except.ok.inj read)]
  · rw [modified_fetch read] at changed
    cases changed

theorem take_of_read (named : i.file ≠ "") (taken : isImportIssue i = true)
    (read : files.source g d here i.file = .ok (some x)) :
    files.take g d here i =
      (Assoc.set files i.file (x.after (repairImport i x.text)), .ok (repairImport i x.text)) := by
  have filled : i.file.isEmpty = false := by simpa using named
  simp [take, filled, taken, read]

theorem take_of_other (files : Sources) (g : Registry) (d : Disk) (here : Path) (named : i.file ≠ "") (other : isImportIssue i = false) :
    files.take g d here i = (files, .ok (.skipped i "No fixer available for this issue type")) := by
  have filled : i.file.isEmpty = false := by simpa using named
  simp [take, filled, other]

/-- A batch on one file that can be read: its text goes through the repairs of the imports. -/
theorem takeAll_of_read (files : Sources) (named : file ≠ "") (own : ∀ i ∈ is, i.file = file) (only : Only file files)
    (read : files.source g d here file = .ok (some x)) :
    ∃ files' os y, files.takeAll g d here is = (files', os, none) ∧ Only file files' ∧
      files'.source g d here file = .ok (some y) ∧ y.codec = x.codec ∧
      y.text = (repairAll (is.filter isImportIssue) x.text).2 ∧
      (y.modified = true ↔ x.modified = true ∨ ∃ o ∈ os, o.status = .fixed) ∧
      os.filter (·.status == .fixed) = (repairAll (is.filter isImportIssue) x.text).1.filter (·.status == .fixed) := by
  induction is generalizing files x with
  | nil => exact ⟨files, [], x, rfl, only, read, rfl, rfl, by simp, rfl⟩
  | cons i is ih =>
    obtain rfl := own i List.mem_cons_self
    have rest := fun j mem => own j (List.mem_cons_of_mem i mem)
    cases taken : isImportIssue i with
    | true =>
      have first := take_of_read named taken read
      generalize repaired : repairImport i x.text = o at first
      have again : Sources.source (Assoc.set files i.file (x.after o)) g d here i.file = .ok (some (x.after o)) := by
        rw [source_set, if_pos rfl]
      obtain ⟨files', os, y, run, only', read', codec, text, modified, fixed⟩ :=
        ih _ rest (Or.inr ⟨_, only.set (x.after o)⟩) again
      rw [text_after] at text fixed
      refine ⟨files', o :: os, y, ?_, only', read', codec.trans (codec_after x o), ?_, ?_, ?_⟩
      · rw [takeAll_cons_ok (congrArg Prod.snd first), first, run]
      · rw [List.filter_cons_of_pos taken, repairAll, repaired, text]
      · rw [modified, ← repaired, modified_after]
        simp [or_assoc]
      · rw [List.filter_cons_of_pos taken, repairAll, repaired, List.filter_cons, List.filter_cons, fixed]
    | false =>
      have first := take_of_other files g d here named taken
      obtain ⟨files', os, y, run, only', read', codec, text, modified, fixed⟩ := ih files rest only read
      have same : (i :: is).filter isImportIssue = is.filter isImportIssue := List.filter_cons_of_neg (by simp [taken])
      refine ⟨files', .skipped i "No fixer available for this issue type" :: os, y, ?_, only', read', codec, ?_, ?_, ?_⟩
      · rw [takeAll_cons_ok (congrArg Prod.snd first), first, run]
      · rw [same, text]
      · simpa [Outcome.skipped] using modified
      · rw [same, ← fixed]
        rfl

/-- A batch on one file that cannot be read as text. -/
theorem takeAll_of_unread (files : Sources) (named : file ≠ "") (own : ∀ i ∈ is, i.file = file)
    (unread : files.source g d here file = .ok none) :
    ∃ os, files.takeAll g d here is = (files, os, none) ∧ ∀ o ∈ os, o.status ≠ .fixed := by
  induction is with
  | nil => exact ⟨[], rfl, by simp⟩
  | cons i is ih =>
    obtain ⟨os, run, unfixed⟩ := ih fun j mem => own j (List.mem_cons_of_mem i mem)
    obtain rfl := own i List.mem_cons_self
    have filled : i.file.isEmpty = false := by simpa using named
    obtain ⟨o, first, status⟩ : ∃ o : Outcome, files.take g d here i = (files, .ok o) ∧ o.status ≠ .fixed := by
      cases taken : isImportIssue i with
      | true =>
        refine ⟨.failed i ("Could not read file: " ++ i.file), ?_, by simp [Outcome.failed]⟩
        simp only [take, filled, taken, unread]
        rfl
      | false => exact ⟨_, take_of_other files g d here named taken, by simp [Outcome.skipped]⟩
    refine ⟨o :: os, ?_, List.forall_mem_cons.2 ⟨status, unfixed⟩⟩
    rw [takeAll_cons_ok (congrArg Prod.snd first), first, run]

end Sources

section Detection

open Encoding

variable {g : Registry} {bytes : List UInt8} {found : Option Detected}

/-- The encoding in which a file is read. -/
def codecOf (found : Option Detected) : Charset := (found.getD ⟨.known .latin1, "latin-1"⟩).codec

theorem eq_utf8_of_label {codec : Codec} (label : codec.label = "utf-8") : codec = .utf8 := by
  cases codec with
  | utf8 => rfl
  | _ => exact absurd label (by decide)

theorem ofLabel_ne (name : String) : Charset.ofLabel name ≠ .other "utf-8" := by
  have known : (Codec.ofName "utf-8").toOption = some .utf8 := by decide +kernel
  unfold Charset.ofLabel
  generalize found : Codec.ofName name = result
  cases result with
  | ok codec => nofun
  | error e =>
    intro same
    rw [← Charset.other.inj same, found] at known
    cases known

/-- Only one encoding has the name. -/
theorem charset_of_label {name : String} {charset : Charset} (known : Charset.ofName g name = .ok charset)
    (label : charset.label = "utf-8") : charset = .known .utf8 := by
  have written : ∀ codec, charset = .known codec → charset = .known .utf8 := by
    rintro codec rfl
    exact congrArg Charset.known (eq_utf8_of_label label)
  rcases Charset.ofName_eq_ok known with ⟨codec, eq⟩ | ⟨found, eq⟩
  · exact written codec eq
  · cases charset with
    | known codec => exact written codec rfl
    | other other => exact absurd (eq.symm.trans (congrArg Charset.other label)) (ofLabel_ne found)

theorem codec_of_name {f : Detected} (detected : detect g bytes = .ok (some f)) (name : f.name = "utf-8") :
    f.codec = .known .utf8 := by
  have tried : ∀ f ∈ candidates, f.2 = "utf-8" → f.1 = .utf8 := by decide
  rw [detect] at detected
  split at detected
  · obtain rfl := Option.some.inj (Except.ok.inj detected)
    exact congrArg Charset.known (eq_utf8_of_label name)
  · split at detected
    · next known =>
      obtain rfl := Option.some.inj (Except.ok.inj detected)
      obtain ⟨_, -, known⟩ := Option.map_eq_some_iff.1 known
      exact charset_of_label known name
    · cases detected
    · obtain ⟨tries, first, rfl⟩ := Option.map_eq_some_iff.1 (Except.ok.inj detected)
      exact congrArg Charset.known (tried tries (List.mem_of_find?_eq_some first) name)

/-- A file that is read as UTF-8, or as Latin-1 because no encoding was found. -/
theorem exists_separate (detected : detect g bytes = .ok found) (plain : ∀ f ∈ found, f.name = "utf-8") :
    ∃ codec fits write, codecOf found = .known codec ∧ codec.Separate fits write := by
  cases found with
  | none => exact ⟨_, _, _, rfl, Codec.separate_latin1⟩
  | some f => exact ⟨_, _, _, codec_of_name detected (plain f rfl), Codec.separate_utf8⟩

theorem fetch_of_detect {d : Disk} {here : Path} {file : String} (clean : '\x00' ∉ file.toList)
    (read : d.read (here.resolve (Path.ofString file)) = .ok bytes) (detected : detect g bytes = .ok found) :
    Session.fetch g d here file =
      match (codecOf found).decode g bytes with
      | .error (.fault _) => .ok none
      | .error (.breakdown kind) => .error (.encoding kind)
      | .ok text => .ok (some { text, codec := codecOf found }) := by
  have go : file.toList.contains '\x00' = false := by simpa using clean
  simp only [Session.fetch, go, read, detectOrBytes, detected, Except.map]
  rfl

end Detection

section Bytes

variable {g : Registry} {codec : Codec} {fits : Char → Prop} {write : Char → List UInt8} {bytes : List UInt8} {text : String}

/-- The line is blank when it is read. -/
def BlankIn (g : Registry) (charset : Charset) (line : List UInt8) : Prop :=
  ∃ text, charset.decode g line = .ok text ∧ isBlankLine text = true

/-- Removing lines of a text removes the lines of its bytes. -/
theorem written_survivors (separate : codec.Separate fits write) (read : (Charset.known codec).decode g bytes = .ok text)
    (removed : Nat → Bool) :
    ∃ bytes' kept, (Charset.known codec).encode g (Text.join "\n" (survivors (Text.splitAt '\n' text) removed)) = .ok bytes' ∧
      Thinned (fun n => removed n = true) (BlankIn g (.known codec)) (bytes.splitOn 0x0a) kept ∧
      if kept = [] then bytes' = [] else bytes'.splitOn 0x0a = kept := by
  obtain ⟨rfl, fit⟩ := separate.back bytes text (Charset.decode_known_eq_ok.1 read)
  have whole : Text.join "\n" (Text.splitAt '\n' text) = text := Text.join_splitAt rfl text
  have free : ∀ l ∈ Text.splitAt '\n' text, '\n' ∉ l.toList := fun l => Text.not_mem_of_mem_splitAt
  have fits' : ∀ l ∈ Text.splitAt '\n' text, ∀ c ∈ l.toList, fits c := fun l mem c inside => by
    apply fit
    rw [← whole, Text.join, String.toList_intercalate]
    exact subset_intercalate (List.mem_map_of_mem mem) inside
  have lines := separate.splitOn_join (Text.splitAt_ne_nil '\n' text) free fits'
  rw [whole] at lines
  generalize Text.splitAt '\n' text = old at *
  have subset := survivors_subset old removed
  have thinned := thinned_survivors old removed
  generalize survivors old removed = left at *
  have fitting : ∀ c ∈ (Text.join "\n" left).toList, fits c := fun c mem => by
    rw [Text.join, String.toList_intercalate] at mem
    rcases mem_intercalate mem with feed | ⟨l, given, inside⟩
    · obtain rfl : c = '\n' := by simpa using feed
      exact separate.fitsFeed
    · obtain ⟨line, among, rfl⟩ := List.mem_map.1 given
      exact fits' line (subset among) c inside
  refine ⟨_, left.map (·.toList.flatMap write), Charset.encode_known_eq_ok.2 (separate.encode _ fitting), ?_, ?_⟩
  · rw [lines]
    exact thinned.map _ fun l mem blank => ⟨l, Charset.decode_known_eq_ok.2 (separate.decode l (fits' l mem)), blank⟩
  · split
    · next none =>
      rw [List.map_eq_nil_iff.1 none]
      rfl
    · next some =>
      have nonempty : left ≠ [] := fun none => some (by rw [none]; rfl)
      exact separate.splitOn_join nonempty (fun l mem => free l (subset mem)) fun l mem => fits' l (subset mem)

end Bytes

namespace Session

variable {s : Session} {g : Registry} {d : Disk} {here : Path} {now : Decimal} {file : String} {bytes : List UInt8}

/-- A changed file in a directory is written. -/
theorem apply_single (now : Decimal) {y : SourceFile} {bytes' : List UInt8} (wet : s.dryRun = false)
    (changed : s.modifiedFiles = [file]) (held : Assoc.get? s.files file = some y)
    (encoded : y.codec.encode s.codecs y.text = .ok bytes')
    (read : d.read (here.resolve (Path.ofString file)) = .ok bytes)
    (parent : d.isDirectory (here.resolve (Path.ofString file)).parent = true) :
    (s.apply d here now).2.1.read (here.resolve (Path.ofString file)) = .ok bytes' ∧
      (file, .ok ()) ∈ (s.apply d here now).2.2.1 := by
  generalize place : here.resolve (Path.ofString file) = p at *
  have entry : d.isDirectory p = false ∧ p.names ≠ [] := by
    rw [Disk.read] at read
    rw [Disk.isDirectory]
    split at read
    · next held =>
      refine ⟨by rw [held], fun root => ?_⟩
      simp [Disk.get?, root] at held
    · cases read
    · cases read
  have wrote : writeFile s.codecs d here now file y = .ok (d.put p (.file bytes' now)) := by
    simp [writeFile, encoded, place, Disk.write, entry.1, parent]
  have done : s.apply d here now =
      ({ s with written := file :: s.written }, d.put p (.file bytes' now), [(file, .ok ())], [], none) := by
    simp [apply, wet, changed, writeAll, held, wrote]
  rw [done]
  refine ⟨?_, List.mem_cons_self⟩
  rw [Disk.read, Disk.get?_put_self _ entry.2 rfl]

/-- The line at the place is one of a repaired issue. -/
def FixedAt (os : List Outcome) (n : Nat) : Prop := ∃ o ∈ os, o.status = .fixed ∧ o.issue.line = n + 1

theorem fixedAt_iff {is : List Issue} {os alone : List Outcome} {text : String}
    (repaired : os.filter (·.status == .fixed) = alone.filter (·.status == .fixed))
    (statuses : alone.map (fun o => (o.issue, o.status)) = is.map fun i => (i, (repairImport i text).status)) (n : Nat) :
    FixedAt os n ↔ isRepaired is text n = true := by
  have both : ∀ o : Outcome, o ∈ os ∧ o.status = .fixed ↔ o ∈ alone ∧ o.status = .fixed := fun o => by
    have mem : o ∈ os.filter (·.status == .fixed) ↔ o ∈ alone.filter (·.status == .fixed) := by rw [repaired]
    simpa using mem
  rw [isRepaired_iff]
  constructor
  · rintro ⟨o, given, fixed, line⟩
    obtain ⟨among, -⟩ := (both o).1 ⟨given, fixed⟩
    have pair : (o.issue, o.status) ∈ is.map fun i => (i, (repairImport i text).status) :=
      statuses ▸ List.mem_map_of_mem among
    obtain ⟨i, asked, eq⟩ := List.mem_map.1 pair
    obtain ⟨rfl, status⟩ := Prod.mk.inj eq
    exact ⟨_, asked, line, status.trans fixed⟩
  · rintro ⟨i, asked, line, fixed⟩
    have pair : (i, (repairImport i text).status) ∈ alone.map fun o => (o.issue, o.status) :=
      statuses ▸ List.mem_map_of_mem (f := fun i => (i, (repairImport i text).status)) asked
    obtain ⟨o, among, eq⟩ := List.mem_map.1 pair
    obtain ⟨rfl, status⟩ := Prod.mk.inj eq
    exact ⟨o, ((both o).2 ⟨among, status.trans fixed⟩).1, status.trans fixed, line⟩

/-- What a write makes of a file whose issues had these outcomes. If one of them was repaired, the file is written. The
lines of its bytes are the old ones, without those of the repaired issues and without some blank ones; a file that loses
all its lines is empty. -/
structure KeepsLines (s : Session) (os : List Outcome) (d : Disk) (here : Path) (now : Decimal) (file : String)
    (charset : Charset) (bytes : List UInt8) : Prop where
  written : (∃ o ∈ os, o.status = .fixed) → (file, .ok ()) ∈ (s.apply d here now).2.2.1
  lines : ∃ bytes' kept, (s.apply d here now).2.1.read (here.resolve (Path.ofString file)) = .ok bytes' ∧
    Thinned (FixedAt os) (BlankIn s.codecs charset) (bytes.splitOn 0x0a) kept ∧
    if kept = [] then bytes' = [] else bytes'.splitOn 0x0a = kept

variable {files : Sources} {os : List Outcome} {issues : List Issue} {charset : Charset} {codec : Codec}

/-- Without a repair nothing is written. -/
theorem keepsLines_of_unfixed (run : Sources.takeAll [] g d here (inOrder issues) = (files, os, none))
    (unfixed : ∀ o ∈ os, o.status ≠ .fixed) (read : d.read (here.resolve (Path.ofString file)) = .ok bytes) :
    KeepsLines { fresh false g with files, outcomes := os } os d here now file charset bytes := by
  have sound : Journal.Sound here { fresh false g with files, outcomes := os }
      ([] ++ (fresh false g).takings here d (inOrder issues)) := by
    have batch : Journal.Sound here (fresh false g) [] := .of_empty rfl rfl rfl
    have after := batch.fixAll d (inOrder issues)
    rwa [fixAll_eq rfl, show (fresh false g).files = [] from rfl, show (fresh false g).codecs = g from rfl, run] at after
  have unchanged : ({ fresh false g with files, outcomes := os } : Session).modifiedFiles = [] := by
    refine List.eq_nil_iff_forall_not_mem.2 fun f mem => ?_
    rw [mem_modifiedFiles sound.distinct, sound.changed] at mem
    obtain ⟨o, given, fixed, -⟩ := mem
    exact unfixed o given fixed
  have unwritten : ({ fresh false g with files, outcomes := os } : Session).apply d here now =
      ({ fresh false g with files, outcomes := os }, d, [], [], none) := by
    rw [apply, unchanged]
    rfl
  have noLine : ∀ n, ¬FixedAt os n := by
    rintro n ⟨o, given, fixed, -⟩
    exact unfixed o given fixed
  refine ⟨?_, bytes, bytes.splitOn 0x0a, ?_, .refl noLine _ _, ?_⟩
  · rintro ⟨o, given, fixed⟩
    exact absurd fixed (unfixed o given)
  · rw [unwritten, read]
  · rw [if_neg (List.splitOn_ne_nil _ _)]

/-- With a repair the file is written in its encoding. -/
theorem keepsLines_of_fixed {fits : Char → Prop} {write : Char → List UInt8} {x y : SourceFile}
    (separate : codec.Separate fits write) (only : Sources.Only file files)
    (source : files.source g d here file = .ok (some y)) (codec_eq : y.codec = .known codec) (modified : y.modified = true)
    (decoded : (Charset.known codec).decode g bytes = .ok x.text) {is : List Issue} (positive : ∀ i ∈ is, 0 < i.line)
    (falling : is.Pairwise fun i j => j.line < i.line) (final : y.text = (repairAll is x.text).2)
    (repaired : os.filter (·.status == .fixed) = (repairAll is x.text).1.filter (·.status == .fixed))
    (read : d.read (here.resolve (Path.ofString file)) = .ok bytes)
    (parent : d.isDirectory (here.resolve (Path.ofString file)).parent = true) :
    KeepsLines { fresh false g with files, outcomes := os } os d here now file (.known codec) bytes := by
  obtain ⟨statuses, left⟩ := repairAll_falling x.text positive falling
  obtain ⟨bytes', kept, encoded, thinned, lines⟩ := written_survivors separate decoded (isRepaired is x.text)
  have fixedAt : (fun n => isRepaired is x.text n = true) = FixedAt os :=
    funext fun n => propext (fixedAt_iff repaired statuses n).symm
  rw [← left, ← final, ← codec_eq] at encoded
  have changed := only.modifiedFiles (s := { fresh false g with files, outcomes := os }) source
  rw [modified, if_pos rfl] at changed
  obtain ⟨back, wrote⟩ := apply_single (s := { fresh false g with files, outcomes := os }) now rfl changed
    (Sources.get?_of_modified source modified) encoded read parent
  exact ⟨fun _ => wrote, bytes', kept, back, fixedAt ▸ thinned, lines⟩

/-- **Surviving lines are kept byte for byte.** A file in a directory that is read as UTF-8, or as Latin-1 because no
encoding was found, is repaired at different lines: all issues get their outcomes, and writing keeps the lines of the bytes
except for those of the repaired issues and some blank ones. -/
theorem apply_keeps_lines (g : Registry) {found : Option Detected} (now : Decimal)
    (read : d.read (here.resolve (Path.ofString file)) = .ok bytes)
    (parent : d.isDirectory (here.resolve (Path.ofString file)).parent = true)
    (detected : Encoding.detect g bytes = .ok found) (plain : ∀ f ∈ found, f.name = "utf-8") (named : file ≠ "")
    (clean : '\x00' ∉ file.toList) (own : ∀ i ∈ issues, i.file = file) (distinct : (issues.map (·.line)).Nodup) :
    ∃ s os, (fresh false g).fixIssues d here issues = (s, .ok os) ∧ (os.map (·.issue)).Perm issues ∧
      KeepsLines s os d here now file (codecOf found) bytes := by
  have own' : ∀ i ∈ inOrder issues, i.file = file := fun i mem => own i ((inOrder_perm issues).mem_iff.1 mem)
  have fetched := fetch_of_detect clean read detected
  obtain ⟨codec, fits, write, known, separate⟩ := exists_separate detected plain
  cases decoded : (codecOf found).decode g bytes with
  | error e =>
    obtain ⟨fault, rfl⟩ : ∃ fault, e = .fault fault := by
      cases e with
      | fault fault => exact ⟨fault, rfl⟩
      | breakdown kind => exact absurd (known ▸ decoded) Charset.decode_known_ne
    rw [decoded] at fetched
    obtain ⟨os, run, unfixed⟩ := Sources.takeAll_of_unread [] named own' fetched
    obtain ⟨batch, perm⟩ := fixIssues_of_takeAll false run
    exact ⟨_, os, batch, perm, keepsLines_of_unfixed run unfixed read⟩
  | ok text =>
    rw [decoded] at fetched
    obtain ⟨files, os, y, run, only, source, same, final, modified, repaired⟩ :=
      Sources.takeAll_of_read [] named own' (Or.inl rfl) fetched
    obtain ⟨batch, perm⟩ := fixIssues_of_takeAll false run
    refine ⟨_, os, batch, perm, ?_⟩
    by_cases any : ∃ o ∈ os, o.status = .fixed
    · have positive : ∀ i ∈ (inOrder issues).filter isImportIssue, 0 < i.line := fun i mem => by
        have taken := (List.mem_filter.1 mem).2
        simp only [isImportIssue, Bool.and_eq_true, decide_eq_true_eq] at taken
        exact taken.2
      have falling := inOrder_of_file named own ▸ falling_sorted distinct
      rw [known] at decoded ⊢
      exact keepsLines_of_fixed separate only source (same.trans known) (modified.2 (Or.inr any)) decoded positive
        (falling.filter isImportIssue) final repaired read parent
    · exact keepsLines_of_unfixed run (fun o given fixed => any ⟨o, given, fixed⟩) read

/-- A file with an import between blank lines, and with a byte that makes it Latin-1. -/
def latinBytes : List UInt8 := Utf8.encode "<?php\n\nuse A;\n\n// " ++ [0xe9, 0x0a]

def latinDisk : Disk where
  entries := [(["a.php"], .file latinBytes default)]

theorem apply_keeps_lines_latin :
    Encoding.detect {} latinBytes = .ok none ∧
      ∃ s os, (fresh false {}).fixIssues latinDisk {} [Ledger.importIssue "A" 3] = (s, .ok os) ∧
        (os.map (·.issue)).Perm [Ledger.importIssue "A" 3] ∧
        KeepsLines s os latinDisk {} default "a.php" (.known .latin1) latinBytes ∧
        ((s.apply latinDisk {} default).2.1.read (Path.ofString "a.php")).toOption =
          some (Utf8.encode "<?php\n\n// " ++ [0xe9, 0x0a]) := by
  have detected : Encoding.detect {} latinBytes = .ok none := by
    have none : (Encoding.detect {} latinBytes).toOption = some none := by decide +kernel
    cases result : Encoding.detect {} latinBytes with
    | error e => rw [result] at none; cases none
    | ok found => rw [result] at none; exact congrArg Except.ok (Option.some.inj none)
  have written : ((((fresh false {}).fixIssues latinDisk {} [Ledger.importIssue "A" 3]).1.apply latinDisk {} default).2.1.read
      (Path.ofString "a.php")).toOption = some (Utf8.encode "<?php\n\n// " ++ [0xe9, 0x0a]) := by
    decide +kernel
  have read : latinDisk.read (({} : Path).resolve (Path.ofString "a.php")) = .ok latinBytes := rfl
  have own : ∀ i ∈ [Ledger.importIssue "A" 3], i.file = "a.php" := by decide
  obtain ⟨s, os, run, perm, lines⟩ :=
    apply_keeps_lines {} default read rfl detected nofun (by decide) (by decide) own (by decide)
  rw [run] at written
  exact ⟨detected, s, os, run, perm, lines, written⟩

end Session
end Fix
end DeadCode
