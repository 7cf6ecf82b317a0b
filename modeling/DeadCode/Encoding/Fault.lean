/-!
# Faults of encoded texts

What can be wrong with the bytes of a text, and where.
-/

namespace DeadCode
set_option autoImplicit false

/-- What is wrong with the bytes at a place. -/
inductive Flaw where
  | startByte
  | continuationByte
  | endOfData
  | notAscii
  | truncated
  | surrogate
  | loneSurrogate
  | surrogatePoint
  | tooLarge
  | illegalSequence
  | incompleteSequence
  | other (reason : String)
  deriving DecidableEq, Repr

/-- The wording of a flaw. -/
def Flaw.reason : Flaw → String
  | .startByte => "invalid start byte"
  | .continuationByte => "invalid continuation byte"
  | .endOfData => "unexpected end of data"
  | .notAscii => "ordinal not in range(128)"
  | .truncated => "truncated data"
  | .surrogate => "illegal UTF-16 surrogate"
  | .loneSurrogate => "illegal encoding"
  | .surrogatePoint => "code point in surrogate code point range(0xd800, 0xe000)"
  | .tooLarge => "code point not in range(0x110000)"
  | .illegalSequence => "illegal multibyte sequence"
  | .incompleteSequence => "incomplete multibyte sequence"
  | .other reason => reason

/-- A flaw, the number of bytes before it and the number of bytes that it takes. -/
structure Fault where
  flaw : Flaw
  start : Nat
  length : Nat := 1
  deriving DecidableEq, Repr

/-- The outcome of reading one character: the character with the number of bytes that it takes, or a flaw. -/
inductive Reading where
  | char (c : Char) (size : Nat)
  | flaw (f : Flaw)
  deriving DecidableEq, Repr

/-- Reads at most `fuel` characters, after a number of bytes. -/
def decodeBy (read : UInt8 → List UInt8 → Reading) : Nat → Nat → List UInt8 → List Char → Except Fault (List Char)
  | 0, _, _, acc => .ok acc.reverse
  | _ + 1, _, [], acc => .ok acc.reverse
  | n + 1, pos, b :: bs, acc =>
    match read b bs with
    | .char c size => decodeBy read n (pos + size) ((b :: bs).drop size) (c :: acc)
    | .flaw f => .error ⟨f, pos, 1⟩

/-- Characters from `start` on, up to `stop`, that an encoding lacks; `first` is the first of them. -/
structure Unwritable where
  first : Char
  start : Nat
  stop : Nat
  deriving DecidableEq, Repr

/-- Writes the characters from a number on. -/
def encodeBy (write : Char → Option (List UInt8)) : Nat → List Char → Except Unwritable (List UInt8)
  | _, [] => .ok []
  | n, c :: cs =>
    match write c with
    | none => .error ⟨c, n, n + 1⟩
    | some bytes => (encodeBy write (n + 1) cs).map (bytes ++ ·)

end DeadCode
