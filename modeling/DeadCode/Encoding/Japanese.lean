import DeadCode.Encoding.Fault
import DeadCode.Encoding.Jis0208
import DeadCode.Encoding.Jis0212
import DeadCode.Encoding.JisVendor

/-!
# Japanese encodings

EUC-JP, Shift_JIS and code page 932 write the rows and cells of the JIS standards in different bytes. ASCII stands for
itself in all of them.
-/

namespace DeadCode.Jis
set_option autoImplicit false

/-- What fills a cell without a character. -/
def noChar : Char := Char.ofNat 0xfffd

/-- The character at a place, counted from zero, of the row with a number. -/
def charAt (rows : List (Nat × String)) (row place : Nat) : Option Char :=
  match (rows.lookup row).bind fun cells => cells.toList[place]? with
  | some c => if c == noChar then none else some c
  | none => none

/-- The row and the place of a character. -/
def placeOf (rows : List (Nat × String)) (c : Char) : Option (Nat × Nat) :=
  if c == noChar then none else
  rows.findSome? fun r => (r.2.toList.findIdx? (· == c)).map fun place => (r.1, place)

/-- Half-width kana by a byte from A1 to DF. -/
def kana (b : UInt8) : Option Char := if 0xa1 ≤ b && b ≤ 0xdf then some (Char.ofNat (0xfec0 + b.toNat)) else none

/-- The byte of a half-width kana. -/
def kanaByte (c : Char) : Option UInt8 :=
  if 0xff61 ≤ c.toNat && c.toNat ≤ 0xff9f then some (UInt8.ofNat (c.toNat - 0xfec0)) else none

/-- A character, or an illegal sequence. -/
def taken (c : Option Char) (size : Nat) : Reading :=
  match c with
  | some c => .char c size
  | none => .flaw .illegalSequence

/-- A place of the basic set by its two numbers, each from 21 to 7E. -/
def basicChar (row cell : Nat) : Option Char := if cell < 0x21 then none else charAt basicRows (row - 0x20) (cell - 0x21)

/-- The yen sign and the overline stand in cells of ASCII. -/
def romanByte (c : Char) : Option UInt8 :=
  if c.toNat == 0xa5 then some 0x5c else if c.toNat == 0x203e then some 0x7e else none

/-- Reads a character of EUC-JP. -/
def readEuc (b : UInt8) (bs : List UInt8) : Reading :=
  if b < 0x80 then .char (Char.ofNat b.toNat) 1
  else
    match bs with
    | [] => .flaw .incompleteSequence
    | c :: r =>
      if b == 0x8e then taken (kana c) 2
      else if b == 0x8f then
        match r with
        | [] => .flaw .incompleteSequence
        | d :: _ =>
          if c < 0xa1 || d < 0xa1 then .flaw .illegalSequence
          else taken (charAt supplementRows (c.toNat - 0xa0) (d.toNat - 0xa1)) 3
      else if b < 0xa1 || c < 0xa1 then .flaw .illegalSequence
      else taken (basicChar (b.toNat - 0x80) (c.toNat - 0x80)) 2

/-- The bytes of a character in EUC-JP. -/
def writeEuc (c : Char) : Option (List UInt8) :=
  if c.toNat < 0x80 then some [UInt8.ofNat c.toNat] else
  match placeOf basicRows c with
  | some (row, place) => some [UInt8.ofNat (row + 0xa0), UInt8.ofNat (place + 0xa1)]
  | none =>
    match placeOf supplementRows c with
    | some (row, place) => some [0x8f, UInt8.ofNat (row + 0xa0), UInt8.ofNat (place + 0xa1)]
    | none =>
      match kanaByte c with
      | some b => some [0x8e, b]
      | none => (romanByte c).map ([·])

/-- Second bytes of the shifted encodings. -/
def isTrail (b : UInt8) : Bool := 0x40 ≤ b && b ≤ 0xfc && b != 0x7f

/-- The place among the 188 second bytes. -/
def trailPlace (b : UInt8) : Nat := if b < 0x80 then b.toNat - 0x40 else b.toNat - 0x41

/-- The second byte of a place. -/
def trailByte (place : Nat) : UInt8 := UInt8.ofNat (if place < 0x3f then place + 0x40 else place + 0x41)

/-- The character of the basic set at two shifted bytes. -/
def shiftedChar (lead trail : UInt8) : Option Char :=
  let l := if lead < 0xe0 then lead.toNat - 0x81 else lead.toNat - 0xc1
  let t := trailPlace trail
  charAt basicRows (2 * l + 1 + t / 94) (t % 94)

/-- The shifted bytes of a place of the basic set. -/
def shiftedBytes (row place : Nat) : List UInt8 :=
  let l := (row - 1) / 2
  [UInt8.ofNat (if l < 0x1f then l + 0x81 else l + 0xc1), trailByte (place + 94 * ((row - 1) % 2))]

/-- Reads a character of Shift_JIS. -/
def readShifted (b : UInt8) (bs : List UInt8) : Reading :=
  if b < 0x80 then .char (Char.ofNat b.toNat) 1
  else
    match kana b with
    | some k => .char k 1
    | none =>
      if b < 0x81 || b == 0xa0 || b > 0xea then .flaw .illegalSequence
      else
        match bs with
        | [] => .flaw .incompleteSequence
        | c :: _ => if isTrail c then taken (shiftedChar b c) 2 else .flaw .illegalSequence

/-- The bytes of a character in Shift_JIS. -/
def writeShifted (c : Char) : Option (List UInt8) :=
  if c.toNat < 0x80 then some [UInt8.ofNat c.toNat] else
  match romanByte c, kanaByte c with
  | some b, _ => some [b]
  | none, some b => some [b]
  | none, none => (placeOf basicRows c).map fun p => shiftedBytes p.1 p.2

/-- The character at two bytes of the code page. -/
def vendorChar (lead trail : UInt8) : Option Char :=
  if !isTrail trail then none
  else if 0xf0 ≤ lead && lead ≤ 0xf9 then
    some (Char.ofNat (0xe000 + 188 * (lead.toNat - 0xf0) + trailPlace trail))
  else
    match charAt vendorRows lead.toNat (trailPlace trail) with
    | some c => some c
    | none => if lead > 0xea then none else (shiftedChar lead trail).map fun c => (vendorForms.lookup c).getD c

/-- Reads a character of code page 932. -/
def readVendor (b : UInt8) (bs : List UInt8) : Reading :=
  if b ≤ 0x80 then .char (Char.ofNat b.toNat) 1
  else if b == 0xa0 then .char (Char.ofNat 0xf8f0) 1
  else if b ≥ 0xfd then .char (Char.ofNat (0xf8f1 + (b.toNat - 0xfd))) 1
  else
    match kana b, bs with
    | some k, _ => .char k 1
    | none, [] => .flaw .incompleteSequence
    | none, c :: _ => taken (vendorChar b c) 2

/-- The bytes of a character in code page 932. -/
def writeVendor (c : Char) : Option (List UInt8) :=
  let n := c.toNat
  let basic := ((vendorForms.find? (·.2 == c)).map (·.1)).getD c
  if n ≤ 0x80 then some [UInt8.ofNat n]
  else if n == 0xf8f0 then some [0xa0]
  else if 0xf8f1 ≤ n && n ≤ 0xf8f3 then some [UInt8.ofNat (n - 0xf8f1 + 0xfd)]
  else if 0xe000 ≤ n && n < 0xe758 then
    some [UInt8.ofNat (0xf0 + (n - 0xe000) / 188), trailByte ((n - 0xe000) % 188)]
  else
    match kanaByte c, placeOf basicRows basic with
    | some b, _ => some [b]
    | none, some (row, place) => some (shiftedBytes row place)
    | none, none => (placeOf vendorRows c).map fun p => [UInt8.ofNat p.1, trailByte p.2]

end DeadCode.Jis
