import DeadCode.Encoding.Fault

/-!
# Encodings of one byte a character

ASCII, and Latin-1, in which every byte is a character.
-/

namespace DeadCode.Bytewise
set_option autoImplicit false

/-- Reads a character below a limit. -/
def read (limit : Nat) (b : UInt8) (_ : List UInt8) : Reading :=
  if b.toNat < limit then .char (Char.ofNat b.toNat) 1 else .flaw .notAscii

/-- The text of bytes below a limit. -/
def decode (limit : Nat) (bs : List UInt8) : Except Fault (List Char) := decodeBy (read limit) bs.length 0 bs []

/-- The bytes of the characters below a limit. A fault takes all characters in a row that are not. -/
def encodeFrom (limit : Nat) : Nat → List Char → Except Unwritable (List UInt8)
  | _, [] => .ok []
  | n, c :: cs =>
    if c.toNat < limit then (encodeFrom limit (n + 1) cs).map (UInt8.ofNat c.toNat :: ·)
    else .error ⟨c, n, n + 1 + (cs.takeWhile fun d => limit ≤ d.toNat).length⟩

end DeadCode.Bytewise
