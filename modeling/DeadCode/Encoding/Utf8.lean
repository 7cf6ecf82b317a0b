import DeadCode.Encoding.Fault

/-!
# UTF-8

`step` takes one character from the front of a byte list, or says what is wrong there and how many bytes the fault
takes. Strict reading stops at the first fault; the tolerant readings drop the faulty bytes or put a replacement
character in their place.
-/

namespace DeadCode.Utf8
set_option autoImplicit false

/-- The outcome of one step. A flaw says how many bytes it takes beyond the first. -/
inductive Step where
  | done
  | char (c : Char) (rest : List UInt8)
  | flaw (f : Flaw) (extra : Nat) (rest : List UInt8)

/-- Bytes that go on with a character. -/
def isTail (b : UInt8) : Bool := 0x80 ≤ b && b ≤ 0xbf

/-- Second bytes allowed after a lead byte. -/
def isSecond (lead b : UInt8) : Bool :=
  if lead == 0xe0 then 0xa0 ≤ b && b ≤ 0xbf
  else if lead == 0xed then 0x80 ≤ b && b ≤ 0x9f
  else if lead == 0xf0 then 0x90 ≤ b && b ≤ 0xbf
  else if lead == 0xf4 then 0x80 ≤ b && b ≤ 0x8f
  else isTail b

/-- The low six bits. -/
def low (b : UInt8) : Nat := b.toNat % 64

/-- One step. -/
def step : List UInt8 → Step
  | [] => .done
  | a :: r =>
    if a < 0x80 then .char (Char.ofNat a.toNat) r
    else if a < 0xc2 || a > 0xf4 then .flaw .startByte 0 r
    else if a < 0xe0 then
      match r with
      | [] => .flaw .endOfData 0 []
      | b :: r' => if isTail b then .char (Char.ofNat ((a.toNat - 0xc0) * 64 + low b)) r' else .flaw .continuationByte 0 r
    else if a < 0xf0 then
      match r with
      | [] => .flaw .endOfData 0 []
      | [b] => if isSecond a b then .flaw .endOfData 1 [] else .flaw .continuationByte 0 r
      | b :: c :: r' =>
        if !isSecond a b then .flaw .continuationByte 0 r
        else if !isTail c then .flaw .continuationByte 1 (c :: r')
        else .char (Char.ofNat ((a.toNat - 0xe0) * 4096 + low b * 64 + low c)) r'
    else
      match r with
      | [] => .flaw .endOfData 0 []
      | [b] => if isSecond a b then .flaw .endOfData 1 [] else .flaw .continuationByte 0 r
      | [b, c] =>
        if !isSecond a b then .flaw .continuationByte 0 r
        else if !isTail c then .flaw .continuationByte 1 [c]
        else .flaw .endOfData 2 []
      | b :: c :: d :: r' =>
        if !isSecond a b then .flaw .continuationByte 0 r
        else if !isTail c then .flaw .continuationByte 1 (c :: d :: r')
        else if !isTail d then .flaw .continuationByte 2 (d :: r')
        else .char (Char.ofNat ((a.toNat - 0xf0) * 262144 + low b * 4096 + low c * 64 + low d)) r'

/-- The bytes of a character. -/
def encodeChar (c : Char) : List UInt8 :=
  let n := c.toNat
  let tail := fun (k : Nat) => UInt8.ofNat (0x80 + n / Nat.pow 64 k % 64)
  if n < 0x80 then [UInt8.ofNat n]
  else if n < 0x800 then [UInt8.ofNat (0xc0 + n / 64), tail 0]
  else if n < 0x10000 then [UInt8.ofNat (0xe0 + n / 4096), tail 1, tail 0]
  else [UInt8.ofNat (0xf0 + n / 262144), tail 2, tail 1, tail 0]

/-- Strict reading of at most `fuel` characters, after a number of bytes. -/
def decodeFrom : Nat → Nat → List UInt8 → List Char → Except Fault (List Char)
  | 0, _, _, acc => .ok acc.reverse
  | n + 1, pos, bs, acc =>
    match step bs with
    | .done => .ok acc.reverse
    | .char c rest => decodeFrom n (pos + (encodeChar c).length) rest (c :: acc)
    | .flaw f extra _ => .error ⟨f, pos, extra + 1⟩

/-- Strict reading. -/
def decode (bs : List UInt8) : Except Fault String := (decodeFrom bs.length 0 bs []).map String.ofList

/-- Tolerant reading: `patch` stands for each flaw. -/
def decodeTolerantFrom (patch : List Char) : Nat → List UInt8 → List Char
  | 0, _ => []
  | n + 1, bs =>
    match step bs with
    | .done => []
    | .char c rest => c :: decodeTolerantFrom patch n rest
    | .flaw _ _ rest => patch ++ decodeTolerantFrom patch n rest

/-- Reading that drops what is no character. -/
def decodeDropping (bs : List UInt8) : String := String.ofList (decodeTolerantFrom [] bs.length bs)

/-- Reading with the replacement character for each flaw. -/
def decodeReplacing (bs : List UInt8) : String :=
  String.ofList (decodeTolerantFrom [Char.ofNat 0xfffd] bs.length bs)

/-- The bytes of a text. -/
def encode (s : String) : List UInt8 := s.toList.flatMap encodeChar

end DeadCode.Utf8
