import DeadCode.Encoding.Detect
import DeadCode.Proofs.WideText

/-!
# Reading a text whose encoding is not told

A text that is written in UTF-8, or after the byte order mark of an encoding of Unicode, comes back from its bytes: the
mark is found, the encoding that it stands for takes the mark away, and what is left is read as it was written. Only the
bytes of UTF-16 with the low byte first and a zero character at the start look like another mark. Without a mark the
bytes must not declare an encoding (`textOf_encoded`).
-/

namespace DeadCode.Encoding
set_option autoImplicit false

/-- The text without byte order marks at its start. -/
def unmarked (s : String) : String := String.ofList (s.toList.dropWhile fun c => c.toNat == 0xfeff)

/-- The encodings of Unicode with a given byte order, each with its byte order mark. -/
def unicodeMarks : List (List UInt8 × Codec) := [
  ([0xef, 0xbb, 0xbf], .utf8), ([0xff, 0xfe], .utf16Little), ([0xfe, 0xff], .utf16Big), ([0xff, 0xfe, 0, 0], .utf32Little),
  ([0, 0, 0xfe, 0xff], .utf32Big)]

section Detection

variable {g : Registry} {configured : String} {bs : List UInt8}

theorem textOf_of_detect {found : Detected} {cs : List Char} (auto : isAuto configured = true)
    (detected : detect g bs = .ok (some found)) (read : found.codec.decodeChars g bs = .ok cs) :
    textOf g configured bs = .ok (unmarked (String.ofList cs)) := by
  have same : detectOrBytes g bs = .ok found := by rw [detectOrBytes, detected]; rfl
  simp only [textOf, auto, if_true, same, read, unmarked, String.toList_ofList]

/-- The first mark that the bytes start with tells the encoding. -/
theorem detect_of_mark {mark : List UInt8 × Codec} (first : (marks.find? fun m => m.1.isPrefixOf bs) = some mark) :
    detect g bs = .ok (some ⟨.known mark.2, mark.2.label⟩) := by
  rw [detect, first]

theorem textOf_of_mark {mark : List UInt8 × Codec} {cs : List Char} (auto : isAuto configured = true)
    (first : (marks.find? fun m => m.1.isPrefixOf bs) = some mark) (read : mark.2.decodeChars bs = .ok cs) :
    textOf g configured bs = .ok (unmarked (String.ofList cs)) :=
  textOf_of_detect auto (detect_of_mark first) (Charset.decodeChars_known read)

theorem decodeChars_utf8 {s : String} (read : Utf8.decode bs = .ok s) : Codec.utf8.decodeChars bs = .ok s.toList := by
  simp only [Codec.decodeChars, read]
  rfl

theorem guess_of_decode {s : String} (read : Utf8.decode bs = .ok s) : guess bs = some ⟨.known .utf8, "utf-8"⟩ := by
  rw [guess, candidates, List.find?_cons_of_pos]
  · rfl
  · simp only [decodeChars_utf8 read]

/-- Bytes without a mark and a declaration are UTF-8 if they can be. -/
theorem detect_of_decode {s : String} (plain : (marks.find? fun m => m.1.isPrefixOf bs) = none)
    (undeclared : declared? bs = none) (read : Utf8.decode bs = .ok s) : detect g bs = .ok (some ⟨.known .utf8, "utf-8"⟩) := by
  rw [detect, plain, undeclared]
  simp only [Option.map_none, guess_of_decode read]

end Detection

section Plain

variable {g : Registry} {s : String}

theorem mem_marks : ∀ mark ∈ marks, 0xfe ∈ mark.1 ∨ mark = ([0xef, 0xbb, 0xbf], .utf8Marked) := by decide

/-- In UTF-8 a text can only start with the mark of UTF-8. -/
theorem mark_of_prefix_encode {mark : List UInt8 × Codec} (listed : mark ∈ marks) (starts : mark.1 <+: Utf8.encode s) :
    mark = ([0xef, 0xbb, 0xbf], .utf8Marked) := by
  refine (mem_marks mark listed).resolve_left fun outside => ?_
  have small := Utf8.toNat_lt_of_mem_encode (starts.subset outside)
  exact absurd small (by decide)

/-- The mark of UTF-8 is a character, and the text goes on after it. -/
theorem exists_of_prefix_encode (starts : [0xef, 0xbb, 0xbf] <+: Utf8.encode s) :
    ∃ cs, s.toList = Char.ofNat 0xfeff :: cs ∧ Utf8.encode s = 0xef :: 0xbb :: 0xbf :: Utf8.encode (String.ofList cs) := by
  obtain ⟨rest, eq⟩ := starts
  have bytes : s.toList.flatMap Utf8.encodeChar = 0xef :: 0xbb :: 0xbf :: rest := eq.symm
  cases chars : s.toList with
  | nil => simp [chars] at bytes
  | cons c cs =>
    rw [chars, List.flatMap_cons] at bytes
    have taken := Utf8.step_encodeChar c (cs.flatMap Utf8.encodeChar)
    rw [bytes, Utf8.step_three rest (by decide) (by decide) (by decide) (by decide)] at taken
    obtain ⟨same, rfl⟩ := Utf8.Step.char.inj taken
    have value : c = Char.ofNat 0xfeff := same.symm
    have rest : Utf8.encode (String.ofList cs) = cs.flatMap Utf8.encodeChar := by rw [Utf8.encode, String.toList_ofList]
    exact ⟨cs, by rw [value], by rw [rest, ← eq]; rfl⟩

theorem unmarked_cons {cs : List Char} (chars : s.toList = Char.ofNat 0xfeff :: cs) :
    unmarked s = unmarked (String.ofList cs) := by
  rw [unmarked, unmarked, chars, String.toList_ofList, List.dropWhile_cons_of_pos (by decide)]

theorem decodeChars_utf8Marked (s : String) :
    Codec.utf8Marked.decodeChars (0xef :: 0xbb :: 0xbf :: Utf8.encode s) = .ok s.toList := by
  simp only [Codec.decodeChars, Utf8.decode_encode]
  rfl

theorem textOf_utf8Marked {configured : String} (auto : isAuto configured = true) (s : String) :
    textOf g configured (0xef :: 0xbb :: 0xbf :: Utf8.encode s) = .ok (unmarked s) := by
  have first : (marks.find? fun m => m.1.isPrefixOf (0xef :: 0xbb :: 0xbf :: Utf8.encode s)) =
      some ([0xef, 0xbb, 0xbf], .utf8Marked) := by
    simp [marks, List.isPrefixOf]
  rw [textOf_of_mark auto first (decodeChars_utf8Marked s), String.ofList_toList]

theorem textOf_utf8 {configured : String} (auto : isAuto configured = true)
    (undeclared : declared? (Utf8.encode s) = none) : textOf g configured (Utf8.encode s) = .ok (unmarked s) := by
  cases first : marks.find? fun m => m.1.isPrefixOf (Utf8.encode s) with
  | none =>
    have detected := detect_of_decode (g := g) first undeclared (Utf8.decode_encode s)
    have read := Charset.decodeChars_known (g := g) (decodeChars_utf8 (Utf8.decode_encode s))
    rw [textOf_of_detect auto detected read, String.ofList_toList]
  | some mark =>
    have found : mark.1.isPrefixOf (Utf8.encode s) = true :=
      List.find?_some (p := fun m : List UInt8 × Codec => m.1.isPrefixOf (Utf8.encode s)) first
    have starts : mark.1 <+: Utf8.encode s := List.isPrefixOf_iff_prefix.1 found
    obtain rfl := mark_of_prefix_encode (List.mem_of_find?_eq_some first) starts
    obtain ⟨cs, chars, bytes⟩ := exists_of_prefix_encode starts
    rw [bytes, textOf_utf8Marked auto, unmarked_cons chars]

end Plain

section Wide

open Wide

variable {g : Registry} {configured : String}

theorem decodeChars_utf16 (o : Order) (s : String) :
    Codec.utf16.decodeChars (o.bytes 2 0xfeff ++ s.toList.flatMap (write16 o)) = .ok s.toList :=
  decodeMarked_write (readsBack16 o) (by decide) s.toList

theorem decodeChars_utf32 (o : Order) (s : String) :
    Codec.utf32.decodeChars (o.bytes 4 0xfeff ++ s.toList.flatMap (write32 o)) = .ok s.toList :=
  decodeMarked_write (readsBack32 o) (by decide) s.toList

theorem textOf_utf32 (auto : isAuto configured = true) (o : Order) (s : String) :
    textOf g configured (o.bytes 4 0xfeff ++ s.toList.flatMap (write32 o)) = .ok (unmarked s) := by
  have first : (marks.find? fun m => m.1.isPrefixOf (o.bytes 4 0xfeff ++ s.toList.flatMap (write32 o))) =
      some (o.bytes 4 0xfeff, .utf32) := by
    cases o with
    | little => rfl
    | big => rfl
  rw [textOf_of_mark auto first (decodeChars_utf32 o s), String.ofList_toList]

/-- Only a zero character starts with a unit of zero. -/
theorem exists_unit16 (o : Order) (c : Char) :
    ∃ b b' rest, write16 o c = b :: b' :: rest ∧ (o.number [b, b'] = 0 → c.toNat = 0) := by
  have valid := valid_toNat c
  rw [write16]
  split
  · next short =>
    obtain ⟨b, b', eq, number⟩ := o.bytes_two short
    exact ⟨b, b', [], eq, fun zero => by omega⟩
  · next long =>
    obtain ⟨b, b', eq, number⟩ := o.bytes_two (show 0xd800 + (c.toNat - 0x10000) / 1024 < 0x10000 by omega)
    exact ⟨b, b', _, by rw [eq]; rfl, fun zero => by omega⟩

theorem isPrefixOf_zeros {s : String} (filled : s.toList.head? ≠ some '\x00') :
    [0, 0].isPrefixOf (s.toList.flatMap (write16 .little)) = false := by
  cases chars : s.toList with
  | nil => rfl
  | cons c cs =>
    obtain ⟨b, b', rest, eq, zero⟩ := exists_unit16 .little c
    rw [List.flatMap_cons, eq, ← Bool.not_eq_true, List.isPrefixOf_iff_prefix]
    rintro ⟨tail, same⟩
    simp only [List.cons_append, List.cons.injEq] at same
    obtain ⟨rfl, rfl, -⟩ := same
    have null : c = '\x00' := Char.toNat_inj.1 (zero rfl)
    exact filled (by rw [chars, null, List.head?_cons])

theorem textOf_utf16 (auto : isAuto configured = true) (o : Order) {s : String}
    (filled : o = .little → s.toList.head? ≠ some '\x00') :
    textOf g configured (o.bytes 2 0xfeff ++ s.toList.flatMap (write16 o)) = .ok (unmarked s) := by
  have first : (marks.find? fun m => m.1.isPrefixOf (o.bytes 2 0xfeff ++ s.toList.flatMap (write16 o))) =
      some (o.bytes 2 0xfeff, .utf16) := by
    cases o with
    | little =>
      -- The mark of UTF-32 starts like this one and goes on with two zeros.
      have other := isPrefixOf_zeros (filled rfl)
      have mark : Order.little.bytes 2 0xfeff = [0xff, 0xfe] := rfl
      simp only [marks, mark, List.cons_append, List.nil_append, List.find?_cons, List.isPrefixOf, other, beq_self_eq_true,
        Bool.true_and, Bool.and_false]
      rfl
    | big => rfl
  rw [textOf_of_mark auto first (decodeChars_utf16 o s), String.ofList_toList]

end Wide

/-- **Reading inverts writing where the encoding is not told**, whatever other encodings there are. -/
theorem textOf_encoded (g : Registry) {configured : String} (auto : isAuto configured = true) (s : String) :
    (declared? (Utf8.encode s) = none → textOf g configured (Utf8.encode s) = .ok (unmarked s)) ∧
      ∀ mark ∈ unicodeMarks, (mark.2 = .utf16Little → s.toList.head? ≠ some '\x00') →
        ∃ bytes, mark.2.encode s = .ok bytes ∧ textOf g configured (mark.1 ++ bytes) = .ok (unmarked s) := by
  refine ⟨textOf_utf8 auto, fun mark listed filled => ?_⟩
  simp only [unicodeMarks, List.mem_cons, List.not_mem_nil, or_false] at listed
  rcases listed with rfl | rfl | rfl | rfl | rfl
  · exact ⟨_, rfl, textOf_utf8Marked auto s⟩
  · exact ⟨_, rfl, textOf_utf16 auto .little fun _ => filled rfl⟩
  · exact ⟨_, rfl, textOf_utf16 auto .big nofun⟩
  · exact ⟨_, rfl, textOf_utf32 auto .little s⟩
  · exact ⟨_, rfl, textOf_utf32 auto .big s⟩

/-- A text with a byte order mark as its first character, and characters of one to four bytes. -/
def greeting : String := "\ufeff<?php echo 'é€😀';"

theorem textOf_encoded_greeting :
    textOf {} "auto" (Utf8.encode greeting) = .ok "<?php echo 'é€😀';" ∧
      ∀ mark ∈ unicodeMarks, ∃ bytes, mark.2.encode greeting = .ok bytes ∧
        textOf {} "auto" (mark.1 ++ bytes) = .ok "<?php echo 'é€😀';" := by
  have auto : isAuto "auto" = true := by decide +kernel
  have undeclared : declared? (Utf8.encode greeting) = none := by decide +kernel
  have rest : unmarked greeting = "<?php echo 'é€😀';" := by decide +kernel
  obtain ⟨plain, marked⟩ := textOf_encoded {} auto greeting
  rw [rest] at plain marked
  exact ⟨plain undeclared, fun mark listed => marked mark listed fun _ => by decide +kernel⟩

end DeadCode.Encoding
