import DeadCode.Encoding.Fault

/-!
# UTF-16 and UTF-32

Characters in units of two or four bytes, in either byte order. Without a given order the mark at the start tells it, and
without a mark the low byte comes first.
-/

namespace DeadCode.Wide
set_option autoImplicit false

/-- The order of the bytes of a unit. -/
inductive Order where
  | little
  | big
  deriving DecidableEq, Repr

/-- The number of a unit. -/
def Order.number (o : Order) (bs : List UInt8) : Nat :=
  match o with
  | .little => bs.foldr (fun b n => n * 256 + b.toNat) 0
  | .big => bs.foldl (fun n b => n * 256 + b.toNat) 0

/-- The bytes of a unit of a size. -/
def Order.bytes (o : Order) (size n : Nat) : List UInt8 :=
  let low := (List.range size).map fun i => UInt8.ofNat (n / Nat.pow 256 i % 256)
  match o with
  | .little => low
  | .big => low.reverse

/-- The first half of a pair. -/
def isHigh (n : Nat) : Bool := 0xd800 ≤ n && n < 0xdc00

/-- The second half of a pair. -/
def isLow (n : Nat) : Bool := 0xdc00 ≤ n && n < 0xe000

/-- Reads a character of UTF-16. -/
def read16 (o : Order) (b : UInt8) (bs : List UInt8) : Reading :=
  match bs with
  | [] => .flaw .truncated
  | c :: r =>
    let n := o.number [b, c]
    if isLow n then .flaw .loneSurrogate
    else if isHigh n then
      match r with
      | d :: e :: _ =>
        let m := o.number [d, e]
        if isLow m then .char (Char.ofNat (0x10000 + (n - 0xd800) * 1024 + (m - 0xdc00))) 4 else .flaw .surrogate
      | _ => .flaw .endOfData
    else .char (Char.ofNat n) 2

/-- Reads a character of UTF-32. -/
def read32 (o : Order) (b : UInt8) (bs : List UInt8) : Reading :=
  match bs with
  | c :: d :: e :: _ =>
    let n := o.number [b, c, d, e]
    if 0xd800 ≤ n && n < 0xe000 then .flaw .surrogatePoint
    else if n < 0x110000 then .char (Char.ofNat n) 4
    else .flaw .tooLarge
  | _ => .flaw .truncated

/-- The text after a mark, if there is one, in the order that it tells. -/
def decodeMarked (read : Order → UInt8 → List UInt8 → Reading) (size : Nat) (bs : List UInt8) :
    Except Fault (List Char) :=
  let mark := bs.take size
  if mark == Order.little.bytes size 0xfeff then decodeBy (read .little) bs.length size (bs.drop size) []
  else if mark == Order.big.bytes size 0xfeff then decodeBy (read .big) bs.length size (bs.drop size) []
  else decodeBy (read .little) bs.length 0 bs []

/-- The text in a given order. -/
def decode (read : Order → UInt8 → List UInt8 → Reading) (o : Order) (bs : List UInt8) : Except Fault (List Char) :=
  decodeBy (read o) bs.length 0 bs []

/-- The bytes of a character in UTF-16. -/
def write16 (o : Order) (c : Char) : List UInt8 :=
  let n := c.toNat
  if n < 0x10000 then o.bytes 2 n
  else o.bytes 2 (0xd800 + (n - 0x10000) / 1024) ++ o.bytes 2 (0xdc00 + (n - 0x10000) % 1024)

/-- The bytes of a character in UTF-32. -/
def write32 (o : Order) (c : Char) : List UInt8 := o.bytes 4 c.toNat

end DeadCode.Wide
