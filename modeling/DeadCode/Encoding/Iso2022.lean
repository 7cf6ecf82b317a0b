import DeadCode.Encoding.Japanese

/-!
# ISO-2022-JP

Seven-bit bytes whose meaning escape sequences switch between ASCII, the Roman set and the basic set. An escape sequence of
another kind passes through as it stands, up to its last letter.
-/

namespace DeadCode.Iso2022
set_option autoImplicit false

/-- The set that the bytes are taken from. -/
inductive Mode where
  | ascii
  | roman
  | basic
  | oldBasic
  deriving DecidableEq, Repr

/-- The letter that ends an escape sequence. -/
def endsEscape (b : UInt8) : Bool := (0x41 ≤ b && b ≤ 0x5a) || b == 0x40

/-- The length of the escape sequence at the front: nothing if the bytes end before it does, zero if it is too long. The
prefix of a revised set counts as part of it. -/
def escapeLength (bs : List UInt8) : Nat → Nat → Option Nat
  | 0, _ => some 0
  | n + 1, i =>
    if 16 ≤ i then some 0 else
    match bs[i]? with
    | none => none
    | some b =>
      if endsEscape b then some (i + 1)
      else if b == 0x26 && bs[i + 1]? == some 0x40 then escapeLength bs n (i + 3)
      else escapeLength bs n (i + 1)

/-- What an escape sequence selects: a set for the bytes that follow, a set that is never used, or nothing known. The
basic set may be announced by a prefix of three bytes. -/
def selected (escape : List UInt8) : Option (Option Mode) :=
  let one := fun (b : UInt8) => if b == 0x42 then some Mode.ascii else if b == 0x4a then some .roman else none
  let two := fun (b : UInt8) => if b == 0x42 then some Mode.basic else if b == 0x40 then some .oldBasic else none
  match escape with
  | [_, 0x24, b] => (two b).map some
  | [_, 0x28, b] => (one b).map some
  | [_, 0x29, b] => (one b).map fun _ => none
  | [_, 0x24, 0x28, b] => (two b).map some
  | [_, 0x24, 0x29, b] => (two b).map fun _ => none
  | [_, _, _, 0x1b, 0x24, 0x42] => some (some .basic)
  | _ => none

/-- The character of a byte in the Roman set. -/
def romanChar (b : UInt8) : Char :=
  if b == 0x5c then Char.ofNat 0xa5 else if b == 0x7e then Char.ofNat 0x203e else Char.ofNat b.toNat

/-- Reads at most `fuel` steps after a number of bytes; `through` says that an unknown escape sequence is passing. -/
def decodeFrom : Nat → Mode → Bool → Nat → List UInt8 → List Char → Except Fault (List Char)
  | 0, _, _, _, _, acc => .ok acc.reverse
  | _ + 1, _, _, _, [], acc => .ok acc.reverse
  | n + 1, mode, true, pos, b :: bs, acc =>
    decodeFrom n mode (!endsEscape b) (pos + 1) bs (Char.ofNat b.toNat :: acc)
  | n + 1, mode, false, pos, b :: bs, acc =>
    if b == 0x1b then
      match bs with
      | [] => .error ⟨.incompleteSequence, pos, 1⟩
      | c :: _ =>
        if [0x28, 0x29, 0x24, 0x2e, 0x26].contains c then
          match escapeLength (b :: bs) 16 1 with
          | none => .error ⟨.incompleteSequence, pos, 1⟩
          | some size =>
            match selected ((b :: bs).take size) with
            | none => .error ⟨.illegalSequence, pos, 1⟩
            | some m => decodeFrom n (m.getD mode) false (pos + size) ((b :: bs).drop size) acc
        else decodeFrom n mode true (pos + 1) bs (Char.ofNat b.toNat :: acc)
    else if b ≥ 0x80 then .error ⟨.illegalSequence, pos, 1⟩
    else if b < 0x20 || mode == .ascii then decodeFrom n mode false (pos + 1) bs (Char.ofNat b.toNat :: acc)
    else if mode == .roman then decodeFrom n mode false (pos + 1) bs (romanChar b :: acc)
    else
      match bs with
      | [] => .error ⟨.incompleteSequence, pos, 1⟩
      | c :: rest =>
        match Jis.basicChar b.toNat c.toNat with
        | some k => decodeFrom n mode false (pos + 2) rest (k :: acc)
        | none => .error ⟨.illegalSequence, pos, 1⟩

/-- The text of the bytes. -/
def decode (bs : List UInt8) : Except Fault (List Char) := decodeFrom bs.length .ascii false 0 bs []

/-- The bytes that switch to a set. -/
def switchTo : Mode → List UInt8
  | .ascii => [0x1b, 0x28, 0x42]
  | .roman => [0x1b, 0x28, 0x4a]
  | .basic => [0x1b, 0x24, 0x42]
  | .oldBasic => [0x1b, 0x24, 0x40]

/-- The set that holds a character, with its bytes there. -/
def placeOf (c : Char) : Option (Mode × List UInt8) :=
  if c.toNat < 0x80 then some (.ascii, [UInt8.ofNat c.toNat]) else
  match Jis.placeOf Jis.basicRows c with
  | some (row, place) => some (.basic, [UInt8.ofNat (row + 0x20), UInt8.ofNat (place + 0x21)])
  | none => (Jis.romanByte c).map fun b => (.roman, [b])

/-- Writes the characters from a number on; the text ends in ASCII. -/
def encodeFrom (mode : Mode) : Nat → List Char → Except Unwritable (List UInt8)
  | _, [] => .ok (if mode == .ascii then [] else switchTo .ascii)
  | n, c :: cs =>
    match placeOf c with
    | none => .error ⟨c, n, n + 1⟩
    | some (m, bytes) =>
      (encodeFrom m (n + 1) cs).map fun rest => (if m == mode then [] else switchTo m) ++ bytes ++ rest

end DeadCode.Iso2022
