import DeadCode.Encoding.Utf8

/-!
# Reading UTF-8 back

A step takes the bytes of one character off the front of whatever follows them, so strict reading gives every text back
from its bytes (`decode_encode`). It takes nothing but the bytes of a character, so what it has read is written as it was
(`encode_of_decode`).
-/

namespace DeadCode.Utf8
set_option autoImplicit false

section Bytes

theorem toNat_ofNat_of_lt {n : Nat} (h : n < 256) : (UInt8.ofNat n).toNat = n := by
  rw [UInt8.toNat_ofNat', Nat.mod_eq_of_lt h]

theorem isTail_ofNat (n : Nat) : isTail (UInt8.ofNat (0x80 + n % 64)) = true := by
  have byte : (UInt8.ofNat (0x80 + n % 64)).toNat = 0x80 + n % 64 := toNat_ofNat_of_lt (by omega)
  simp only [isTail, Bool.and_eq_true, decide_eq_true_eq, UInt8.le_iff_toNat_le, byte, UInt8.toNat_ofNat]
  omega

theorem low_ofNat (n : Nat) : low (UInt8.ofNat (0x80 + n % 64)) = n % 64 := by
  rw [low, toNat_ofNat_of_lt (by omega)]
  omega

/-- The second byte of three: neither a longer form of a smaller character nor a surrogate. -/
theorem isSecond_three {n : Nat} (least : 0x800 ≤ n) (most : n < 0x10000) (valid : n < 0xd800 ∨ 0xdfff < n) :
    isSecond (UInt8.ofNat (0xe0 + n / 4096)) (UInt8.ofNat (0x80 + n / 64 % 64)) = true := by
  have lead : (UInt8.ofNat (0xe0 + n / 4096)).toNat = 0xe0 + n / 4096 := toNat_ofNat_of_lt (by omega)
  have byte : (UInt8.ofNat (0x80 + n / 64 % 64)).toNat = 0x80 + n / 64 % 64 := toNat_ofNat_of_lt (by omega)
  have tail := isTail_ofNat (n / 64)
  simp only [isSecond, beq_iff_eq, ← UInt8.toNat_inj, UInt8.le_iff_toNat_le, lead, byte, UInt8.toNat_ofNat, tail]
  repeat' split
  all_goals simp only [Bool.and_eq_true, decide_eq_true_eq]
  all_goals omega

/-- The second byte of four: neither a longer form of a smaller character nor beyond the last one. -/
theorem isSecond_four {n : Nat} (least : 0x10000 ≤ n) (most : n < 0x110000) :
    isSecond (UInt8.ofNat (0xf0 + n / 262144)) (UInt8.ofNat (0x80 + n / 4096 % 64)) = true := by
  have lead : (UInt8.ofNat (0xf0 + n / 262144)).toNat = 0xf0 + n / 262144 := toNat_ofNat_of_lt (by omega)
  have byte : (UInt8.ofNat (0x80 + n / 4096 % 64)).toNat = 0x80 + n / 4096 % 64 := toNat_ofNat_of_lt (by omega)
  have tail := isTail_ofNat (n / 4096)
  simp only [isSecond, beq_iff_eq, ← UInt8.toNat_inj, UInt8.le_iff_toNat_le, lead, byte, UInt8.toNat_ofNat, tail]
  repeat' split
  all_goals simp only [Bool.and_eq_true, decide_eq_true_eq]
  all_goals omega

end Bytes

section Step

variable {a b c d : UInt8} (rest : List UInt8)

theorem step_one (h : a.toNat < 0x80) : step (a :: rest) = .char (Char.ofNat a.toNat) rest := by
  simp only [step, UInt8.lt_iff_toNat_lt, UInt8.toNat_ofNat, if_pos h]

theorem step_two (least : 0xc2 ≤ a.toNat) (most : a.toNat < 0xe0) (tail : isTail b = true) :
    step (a :: b :: rest) = .char (Char.ofNat ((a.toNat - 0xc0) * 64 + low b)) rest := by
  have long : ¬a.toNat < 0x80 := by omega
  have lead : ¬(a.toNat < 0xc2 ∨ 0xf4 < a.toNat) := by omega
  simp only [step, UInt8.lt_iff_toNat_lt, gt_iff_lt, UInt8.toNat_ofNat, Bool.or_eq_true, decide_eq_true_eq, if_neg long,
    if_neg lead, if_pos most, if_pos tail]

theorem step_three (least : 0xe0 ≤ a.toNat) (most : a.toNat < 0xf0) (second : isSecond a b = true)
    (tail : isTail c = true) :
    step (a :: b :: c :: rest) = .char (Char.ofNat ((a.toNat - 0xe0) * 4096 + low b * 64 + low c)) rest := by
  have long : ¬a.toNat < 0x80 := by omega
  have longer : ¬a.toNat < 0xe0 := by omega
  have lead : ¬(a.toNat < 0xc2 ∨ 0xf4 < a.toNat) := by omega
  simp only [step, UInt8.lt_iff_toNat_lt, gt_iff_lt, UInt8.toNat_ofNat, Bool.or_eq_true, decide_eq_true_eq, if_neg long,
    if_neg lead, if_neg longer, if_pos most, second, tail, Bool.not_true, Bool.false_eq_true, if_false]

theorem step_four (least : 0xf0 ≤ a.toNat) (most : a.toNat ≤ 0xf4) (second : isSecond a b = true)
    (tail : isTail c = true) (last : isTail d = true) :
    step (a :: b :: c :: d :: rest) =
      .char (Char.ofNat ((a.toNat - 0xf0) * 262144 + low b * 4096 + low c * 64 + low d)) rest := by
  have long : ¬a.toNat < 0x80 := by omega
  have longer : ¬a.toNat < 0xe0 := by omega
  have longest : ¬a.toNat < 0xf0 := by omega
  have lead : ¬(a.toNat < 0xc2 ∨ 0xf4 < a.toNat) := by omega
  simp only [step, UInt8.lt_iff_toNat_lt, gt_iff_lt, UInt8.toNat_ofNat, Bool.or_eq_true, decide_eq_true_eq, if_neg long,
    if_neg lead, if_neg longer, if_neg longest, second, tail, last, Bool.not_true, Bool.false_eq_true, if_false]

end Step

section Characters

variable {a b c d : UInt8}

theorem toNat_of_isTail (tail : isTail b = true) : b.toNat = 0x80 + low b := by
  simp only [isTail, Bool.and_eq_true, decide_eq_true_eq, UInt8.le_iff_toNat_le, UInt8.toNat_ofNat] at tail
  rw [low]
  omega

theorem isTail_of_isSecond (second : isSecond a b = true) : isTail b = true := by
  simp only [isSecond, isTail] at second ⊢
  simp only [Bool.and_eq_true, decide_eq_true_eq, UInt8.le_iff_toNat_le, UInt8.toNat_ofNat]
  repeat' split at second
  all_goals
    simp only [Bool.and_eq_true, decide_eq_true_eq, UInt8.le_iff_toNat_le, UInt8.toNat_ofNat] at second
    omega

/-- The second byte keeps the value from being one of a shorter form, a surrogate or too large. -/
theorem bounds_of_isSecond (second : isSecond a b = true) :
    (a.toNat = 0xe0 → 0x20 ≤ low b) ∧ (a.toNat = 0xed → low b < 0x20) ∧ (a.toNat = 0xf0 → 0x10 ≤ low b) ∧
      (a.toNat = 0xf4 → low b < 0x10) := by
  have tail := toNat_of_isTail (isTail_of_isSecond second)
  simp only [isSecond, isTail, beq_iff_eq, ← UInt8.toNat_inj, UInt8.toNat_ofNat] at second
  repeat' split at second
  all_goals
    simp only [Bool.and_eq_true, decide_eq_true_eq, UInt8.le_iff_toNat_le, UInt8.toNat_ofNat] at second
    omega

theorem low_lt (b : UInt8) : low b < 64 := Nat.mod_lt _ (by decide)

theorem ofNat_eq_of_toNat {n : Nat} (h : b.toNat = n) : UInt8.ofNat n = b := by
  rw [← h, UInt8.ofNat_toNat]

theorem toNat_ofNat_of_valid {n : Nat} (valid : n < 0xd800 ∨ 0xdfff < n ∧ n < 0x110000) : (Char.ofNat n).toNat = n := by
  have char : Char.ofNat n = Char.ofNatAux n valid := dif_pos valid
  rw [char]
  rfl

theorem encodeChar_one (h : a.toNat < 0x80) : encodeChar (Char.ofNat a.toNat) = [a] := by
  have value : (Char.ofNat a.toNat).toNat = a.toNat := toNat_ofNat_of_valid (by omega)
  simp only [encodeChar, value, if_pos h, UInt8.ofNat_toNat]

theorem encodeChar_two (least : 0xc2 ≤ a.toNat) (most : a.toNat < 0xe0) (tail : isTail b = true) :
    encodeChar (Char.ofNat ((a.toNat - 0xc0) * 64 + low b)) = [a, b] := by
  have value := toNat_ofNat_of_valid (n := (a.toNat - 0xc0) * 64 + low b) (by have := low_lt b; omega)
  have last := toNat_of_isTail tail
  have small := low_lt b
  have lead : a.toNat = 0xc0 + ((a.toNat - 0xc0) * 64 + low b) / 64 := by omega
  have first : b.toNat = 0x80 + ((a.toNat - 0xc0) * 64 + low b) / Nat.pow 64 0 % 64 := by
    rw [show Nat.pow 64 0 = 1 from rfl]
    omega
  rw [encodeChar, value]
  simp only [if_neg (show ¬(a.toNat - 0xc0) * 64 + low b < 0x80 by omega),
    if_pos (show (a.toNat - 0xc0) * 64 + low b < 0x800 by omega), ofNat_eq_of_toNat lead, ofNat_eq_of_toNat first]

theorem encodeChar_three (least : 0xe0 ≤ a.toNat) (most : a.toNat < 0xf0) (second : isSecond a b = true)
    (tail : isTail c = true) :
    encodeChar (Char.ofNat ((a.toNat - 0xe0) * 4096 + low b * 64 + low c)) = [a, b, c] := by
  obtain ⟨shorter, surrogate, -, -⟩ := bounds_of_isSecond second
  have middle := toNat_of_isTail (isTail_of_isSecond second)
  have last := toNat_of_isTail tail
  have small := low_lt b
  have small' := low_lt c
  have value := toNat_ofNat_of_valid (n := (a.toNat - 0xe0) * 4096 + low b * 64 + low c) (by omega)
  have lead : a.toNat = 0xe0 + ((a.toNat - 0xe0) * 4096 + low b * 64 + low c) / 4096 := by omega
  have first : b.toNat = 0x80 + ((a.toNat - 0xe0) * 4096 + low b * 64 + low c) / Nat.pow 64 1 % 64 := by
    rw [show Nat.pow 64 1 = 64 from rfl]
    omega
  have zeroth : c.toNat = 0x80 + ((a.toNat - 0xe0) * 4096 + low b * 64 + low c) / Nat.pow 64 0 % 64 := by
    rw [show Nat.pow 64 0 = 1 from rfl]
    omega
  rw [encodeChar, value]
  simp only [if_neg (show ¬(a.toNat - 0xe0) * 4096 + low b * 64 + low c < 0x80 by omega),
    if_neg (show ¬(a.toNat - 0xe0) * 4096 + low b * 64 + low c < 0x800 by omega),
    if_pos (show (a.toNat - 0xe0) * 4096 + low b * 64 + low c < 0x10000 by omega), ofNat_eq_of_toNat lead,
    ofNat_eq_of_toNat first, ofNat_eq_of_toNat zeroth]

theorem encodeChar_four (least : 0xf0 ≤ a.toNat) (most : a.toNat ≤ 0xf4) (second : isSecond a b = true)
    (tail : isTail c = true) (tail' : isTail d = true) :
    encodeChar (Char.ofNat ((a.toNat - 0xf0) * 262144 + low b * 4096 + low c * 64 + low d)) = [a, b, c, d] := by
  obtain ⟨-, -, shorter, large⟩ := bounds_of_isSecond second
  have middle := toNat_of_isTail (isTail_of_isSecond second)
  have third := toNat_of_isTail tail
  have last := toNat_of_isTail tail'
  have small := low_lt b
  have small' := low_lt c
  have small'' := low_lt d
  have value := toNat_ofNat_of_valid (n := (a.toNat - 0xf0) * 262144 + low b * 4096 + low c * 64 + low d) (by omega)
  generalize word : (a.toNat - 0xf0) * 262144 + low b * 4096 + low c * 64 + low d = n at value
  have lead : a.toNat = 0xf0 + n / 262144 := by omega
  have second : b.toNat = 0x80 + n / Nat.pow 64 2 % 64 := by
    rw [show Nat.pow 64 2 = 4096 from rfl]
    omega
  have first : c.toNat = 0x80 + n / Nat.pow 64 1 % 64 := by
    rw [show Nat.pow 64 1 = 64 from rfl]
    omega
  have zeroth : d.toNat = 0x80 + n / Nat.pow 64 0 % 64 := by
    rw [show Nat.pow 64 0 = 1 from rfl]
    omega
  rw [encodeChar, value]
  simp only [if_neg (show ¬n < 0x80 by omega), if_neg (show ¬n < 0x800 by omega), if_neg (show ¬n < 0x10000 by omega),
    ofNat_eq_of_toNat lead, ofNat_eq_of_toNat second, ofNat_eq_of_toNat first, ofNat_eq_of_toNat zeroth]

theorem encodeChar_of_ascii {c : Char} (ascii : c.toNat < 0x80) : encodeChar c = [UInt8.ofNat c.toNat] := by
  rw [encodeChar]
  exact if_pos ascii

/-- The bytes of characters outside ASCII are outside ASCII as well, and none of them is FE or FF. -/
theorem bounds_of_mem_encodeChar {c : Char} (long : 0x80 ≤ c.toNat) (mem : b ∈ encodeChar c) :
    0x80 ≤ b.toNat ∧ b.toNat < 0xf8 := by
  have valid : c.toNat < 0xd800 ∨ 0xdfff < c.toNat ∧ c.toNat < 0x110000 := c.valid
  have tails : ∀ n, (UInt8.ofNat (0x80 + n % 64)).toNat = 0x80 + n % 64 := fun n => toNat_ofNat_of_lt (by omega)
  rw [encodeChar, if_neg (by omega)] at mem
  split at mem
  · have lead : (UInt8.ofNat (0xc0 + c.toNat / 64)).toNat = 0xc0 + c.toNat / 64 := toNat_ofNat_of_lt (by omega)
    simp only [List.mem_cons, List.not_mem_nil, or_false] at mem
    rcases mem with rfl | rfl
    all_goals simp only [lead, tails]; omega
  split at mem
  · have lead : (UInt8.ofNat (0xe0 + c.toNat / 4096)).toNat = 0xe0 + c.toNat / 4096 := toNat_ofNat_of_lt (by omega)
    simp only [List.mem_cons, List.not_mem_nil, or_false] at mem
    rcases mem with rfl | rfl | rfl
    all_goals simp only [lead, tails]; omega
  · have lead : (UInt8.ofNat (0xf0 + c.toNat / 262144)).toNat = 0xf0 + c.toNat / 262144 := toNat_ofNat_of_lt (by omega)
    simp only [List.mem_cons, List.not_mem_nil, or_false] at mem
    rcases mem with rfl | rfl | rfl | rfl
    all_goals simp only [lead, tails]; omega

theorem toNat_lt_of_mem_encode {s : String} (mem : b ∈ encode s) : b.toNat < 0xf8 := by
  obtain ⟨c, -, mem⟩ := List.mem_flatMap.1 mem
  by_cases ascii : c.toNat < 0x80
  · rw [encodeChar_of_ascii ascii, List.mem_singleton] at mem
    rw [mem, toNat_ofNat_of_lt (by omega)]
    omega
  · exact (bounds_of_mem_encodeChar (by omega) mem).2

end Characters

/-- A step takes exactly the bytes of a character. -/
theorem step_encodeChar (c : Char) (rest : List UInt8) : step (encodeChar c ++ rest) = .char c rest := by
  have valid : c.toNat < 0xd800 ∨ 0xdfff < c.toNat ∧ c.toNat < 0x110000 := c.valid
  have back : Char.ofNat c.toNat = c := Char.ofNat_toNat c
  have tail : ∀ k, isTail (UInt8.ofNat (0x80 + c.toNat / Nat.pow 64 k % 64)) = true := fun k => isTail_ofNat _
  have lows : ∀ k, low (UInt8.ofNat (0x80 + c.toNat / Nat.pow 64 k % 64)) = c.toNat / Nat.pow 64 k % 64 := fun k =>
    low_ofNat _
  have one : Nat.pow 64 0 = 1 := rfl
  have square : Nat.pow 64 1 = 64 := rfl
  have cube : Nat.pow 64 2 = 4096 := rfl
  rw [encodeChar]
  split
  · have lead : (UInt8.ofNat c.toNat).toNat = c.toNat := toNat_ofNat_of_lt (by omega)
    rw [List.cons_append, List.nil_append, step_one rest (by omega), lead, back]
  split
  · have lead : (UInt8.ofNat (0xc0 + c.toNat / 64)).toNat = 0xc0 + c.toNat / 64 := toNat_ofNat_of_lt (by omega)
    have value : (0xc0 + c.toNat / 64 - 0xc0) * 64 + c.toNat / 1 % 64 = c.toNat := by omega
    simp only [List.cons_append, List.nil_append]
    rw [step_two rest (by omega) (by omega) (tail 0), lead, lows, one, value, back]
  split
  · have lead : (UInt8.ofNat (0xe0 + c.toNat / 4096)).toNat = 0xe0 + c.toNat / 4096 := toNat_ofNat_of_lt (by omega)
    have second : isSecond _ (UInt8.ofNat (0x80 + c.toNat / Nat.pow 64 1 % 64)) = true :=
      isSecond_three (by omega) (by omega) (by omega)
    have value : (0xe0 + c.toNat / 4096 - 0xe0) * 4096 + c.toNat / 64 % 64 * 64 + c.toNat / 1 % 64 = c.toNat := by omega
    simp only [List.cons_append, List.nil_append]
    rw [step_three rest (by omega) (by omega) second (tail 0), lead, lows, lows, one, square, value, back]
  · have lead : (UInt8.ofNat (0xf0 + c.toNat / 262144)).toNat = 0xf0 + c.toNat / 262144 := toNat_ofNat_of_lt (by omega)
    have second : isSecond _ (UInt8.ofNat (0x80 + c.toNat / Nat.pow 64 2 % 64)) = true :=
      isSecond_four (by omega) (by omega)
    have value : (0xf0 + c.toNat / 262144 - 0xf0) * 262144 + c.toNat / 4096 % 64 * 4096 + c.toNat / 64 % 64 * 64 +
        c.toNat / 1 % 64 = c.toNat := by omega
    simp only [List.cons_append, List.nil_append]
    rw [step_four rest (by omega) (by omega) second (tail 1) (tail 0), lead, lows, lows, lows, one, square, cube, value,
      back]

theorem decodeFrom_encode (cs : List Char) {fuel : Nat} (pos : Nat) (acc : List Char) (enough : cs.length ≤ fuel) :
    decodeFrom fuel pos (cs.flatMap encodeChar) acc = .ok (acc.reverse ++ cs) := by
  induction cs generalizing fuel pos acc with
  | nil => cases fuel <;> simp [decodeFrom, step]
  | cons c cs ih =>
    obtain ⟨fuel, rfl⟩ : ∃ n, fuel = n + 1 := ⟨fuel - 1, by simp at enough; omega⟩
    rw [List.flatMap_cons, decodeFrom, step_encodeChar]
    simp only
    rw [ih _ _ (by simpa using enough), List.reverse_cons, List.append_assoc]
    rfl

theorem length_le_encode (cs : List Char) : cs.length ≤ (cs.flatMap encodeChar).length := by
  induction cs with
  | nil => exact Nat.le_refl 0
  | cons c cs ih =>
    have some : 0 < (encodeChar c).length := by
      rw [encodeChar]
      repeat' split
      all_goals simp
    rw [List.flatMap_cons, List.length_append, List.length_cons]
    omega

/-- Strict reading inverts writing. -/
theorem decode_encode (s : String) : decode (encode s) = .ok s := by
  rw [decode, encode, decodeFrom_encode s.toList 0 [] (length_le_encode s.toList)]
  simp [Except.map]

/-- A step that takes a character takes its bytes. -/
theorem eq_encodeChar_of_step {bs rest : List UInt8} {c : Char} (taken : step bs = .char c rest) :
    bs = encodeChar c ++ rest := by
  rw [step.eq_def] at taken
  split at taken
  · cases taken
  · next a r =>
    simp only [UInt8.lt_iff_toNat_lt, gt_iff_lt, UInt8.toNat_ofNat, Bool.or_eq_true, decide_eq_true_eq,
      Bool.not_eq_true'] at taken
    split at taken
    · next short =>
      cases taken
      rw [encodeChar_one short]
      rfl
    split at taken
    · cases taken
    split at taken
    · repeat' split at taken
      all_goals cases taken
      next tail =>
      rw [encodeChar_two (by omega) (by omega) tail]
      rfl
    split at taken
    · repeat' split at taken
      all_goals cases taken
      next second tail =>
      rw [encodeChar_three (by omega) (by omega) (by simpa using second) (by simpa using tail)]
      rfl
    · repeat' split at taken
      all_goals cases taken
      next second tail last =>
      rw [encodeChar_four (by omega) (by omega) (by simpa using second) (by simpa using tail) (by simpa using last)]
      rfl

theorem eq_nil_of_step {bs : List UInt8} (done : step bs = .done) : bs = [] := by
  rw [step.eq_def] at done
  split at done
  · rfl
  · repeat' split at done
    all_goals cases done

theorem eq_encode_of_decodeFrom {fuel pos : Nat} {bs : List UInt8} {acc cs : List Char} (enough : bs.length ≤ fuel)
    (read : decodeFrom fuel pos bs acc = .ok cs) : ∃ rest, cs = acc.reverse ++ rest ∧ bs = rest.flatMap encodeChar := by
  induction fuel generalizing pos bs acc with
  | zero =>
    obtain rfl := List.length_eq_zero_iff.1 (Nat.le_zero.1 enough)
    exact ⟨[], by simpa [decodeFrom] using read.symm, rfl⟩
  | succ fuel ih =>
    rw [decodeFrom] at read
    split at read
    · next done =>
      obtain rfl := eq_nil_of_step done
      exact ⟨[], by simpa using read.symm, rfl⟩
    · next c left taken =>
      have bytes := eq_encodeChar_of_step taken
      have shorter : left.length < bs.length := by
        have some := length_le_encode [c]
        rw [List.flatMap_singleton, List.length_singleton] at some
        rw [bytes, List.length_append]
        omega
      obtain ⟨rest, rfl, rfl⟩ := ih (by omega) read
      exact ⟨c :: rest, by simp, bytes⟩
    · cases read

/-- What strict reading has read is written as it was. -/
theorem encode_of_decode {bs : List UInt8} {s : String} (read : decode bs = .ok s) : encode s = bs := by
  rw [decode] at read
  cases run : decodeFrom bs.length 0 bs [] with
  | error f => simp [run, Except.map] at read
  | ok cs =>
    obtain ⟨rest, rfl, bytes⟩ := eq_encode_of_decodeFrom (Nat.le_refl _) run
    simp only [run, Except.map, Except.ok.injEq] at read
    rw [encode, ← read, String.toList_ofList]
    exact bytes.symm

end DeadCode.Utf8
