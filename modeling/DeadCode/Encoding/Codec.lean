import DeadCode.Encoding.Bytewise
import DeadCode.Encoding.Iso2022
import DeadCode.Encoding.Utf8
import DeadCode.Encoding.Wide
import DeadCode.Text.Blank
import DeadCode.Text.Case
import DeadCode.Text.Quoted

/-!
# Encodings by name

The encodings of source files that are written out here: those that are tried or marked, and those that the source language
has names for. A name is compared without regard to case and to the signs between its letters and digits, after the names that
only the source language knows are put in its place.
-/

namespace DeadCode
set_option autoImplicit false

/-- An encoding. -/
inductive Codec where
  | utf8
  | utf8Marked
  | utf16
  | utf16Little
  | utf16Big
  | utf32
  | utf32Little
  | utf32Big
  | ascii
  | latin1
  | eucJp
  | shiftJis
  | codePage932
  | iso2022Jp
  deriving DecidableEq, Inhabited, Repr

/-- Why a name is no encoding. -/
inductive CodecError where
  | unknown (name : String)
  | nullInName
  deriving DecidableEq, Repr

/-- The wording of the error. -/
def CodecError.message : CodecError → String
  | .unknown name => "Unknown encoding: " ++ name
  | .nullInName => "embedded null character"

namespace Codec

/-- The canonical name. -/
def label : Codec → String
  | utf8 => "utf-8"
  | utf8Marked => "utf-8-sig"
  | utf16 => "utf-16"
  | utf16Little => "utf-16-le"
  | utf16Big => "utf-16-be"
  | utf32 => "utf-32"
  | utf32Little => "utf-32-le"
  | utf32Big => "utf-32-be"
  | ascii => "ascii"
  | latin1 => "iso8859-1"
  | eucJp => "euc_jp"
  | shiftJis => "shift_jis"
  | codePage932 => "cp932"
  | iso2022Jp => "iso2022_jp"

/-- Names of the source language. -/
def sourceNames : List (String × String) := [
  ("sjis", "shift_jis"), ("sjis-win", "cp932"), ("ms932", "cp932"), ("windows-31j", "cp932"), ("eucjp", "euc-jp"),
  ("ujis", "euc-jp"), ("jis", "iso2022_jp")]

/-- Names of the encodings, with an underscore for the signs inside them. -/
def names : List (Codec × List String) := [
  (utf8, ["utf_8", "u8", "utf", "utf8", "utf8_ucs2", "utf8_ucs4", "cp65001"]), (utf8Marked, ["utf_8_sig"]),
  (utf16, ["utf_16", "u16", "utf16"]), (utf16Little, ["utf_16_le", "utf_16le", "unicodelittleunmarked"]),
  (utf16Big, ["utf_16_be", "utf_16be", "unicodebigunmarked"]), (utf32, ["utf_32", "u32", "utf32"]),
  (utf32Little, ["utf_32_le", "utf_32le"]), (utf32Big, ["utf_32_be", "utf_32be"]),
  (ascii, ["ascii", "646", "ansi_x3_4_1968", "ansi_x3_4_1986", "cp367", "csascii", "ibm367", "iso646_us",
    "iso_646_irv_1991", "iso_ir_6", "us", "us_ascii"]),
  (latin1, ["latin_1", "8859", "cp819", "csisolatin1", "ibm819", "iso8859", "iso8859_1", "iso_8859_1",
    "iso_8859_1_1987", "iso_ir_100", "l1", "latin", "latin1"]),
  (eucJp, ["euc_jp", "eucjp", "ujis", "u_jis"]), (shiftJis, ["shift_jis", "csshiftjis", "shiftjis", "sjis", "s_jis"]),
  (codePage932, ["cp932", "932", "ms932", "mskanji", "ms_kanji", "windows_31j"]),
  (iso2022Jp, ["iso2022_jp", "csiso2022jp", "iso2022jp", "iso_2022_jp"])]

/-- Letters, digits and points make up a name. -/
def isNamePart (c : Char) : Bool := Text.isAsciiLetter c || Text.isAsciiDigit c || c == '.'

/-- The parts of a name, with one underscore for whatever stands between two of them; `gap` says that
something does. -/
def foldName (gap : Bool) : List Char → List Char
  | [] => []
  | c :: cs =>
    if isNamePart c then
      (if gap then ['_', Text.lowerChar c] else [Text.lowerChar c]) ++ foldName false cs
    else foldName true cs

/-- Is a folded name among those of an encoding? A point stands for an underscore in all but the first of them. -/
def isAmong (folded : String) (known : List String) : Bool :=
  known.contains folded || (folded.toList.contains '.' && known.tail.contains (Text.replace "." "_" folded))

/-- The name that is looked up: in small letters, and in the place of one that only the source language knows. -/
def keyOf (name : String) : String :=
  let lowered := Text.lower (Text.strip name)
  (sourceNames.lookup lowered).getD lowered

/-- The encoding with this name. -/
def ofName (name : String) : Except CodecError Codec :=
  let lowered := keyOf name
  let folded := String.ofList (foldName false (lowered.toList.dropWhile fun c => !isNamePart c))
  if lowered.toList.contains '\x00' then .error .nullInName else
  match names.find? fun n => isAmong folded n.2 with
  | some n => .ok n.1
  | none => .error (.unknown name)

/-- The text of bytes. After a mark of UTF-8 the bytes are counted anew. -/
def decodeChars (c : Codec) (bs : List UInt8) : Except Fault (List Char) :=
  let marked := fun (bs : List UInt8) => match bs with
    | 0xef :: 0xbb :: 0xbf :: rest => rest
    | _ => bs
  match c with
  | utf8 => (Utf8.decode bs).map String.toList
  | utf8Marked => (Utf8.decode (marked bs)).map String.toList
  | utf16 => Wide.decodeMarked Wide.read16 2 bs
  | utf16Little => Wide.decode Wide.read16 .little bs
  | utf16Big => Wide.decode Wide.read16 .big bs
  | utf32 => Wide.decodeMarked Wide.read32 4 bs
  | utf32Little => Wide.decode Wide.read32 .little bs
  | utf32Big => Wide.decode Wide.read32 .big bs
  | ascii => Bytewise.decode 128 bs
  | latin1 => Bytewise.decode 256 bs
  | eucJp => decodeBy Jis.readEuc bs.length 0 bs []
  | shiftJis => decodeBy Jis.readShifted bs.length 0 bs []
  | codePage932 => decodeBy Jis.readVendor bs.length 0 bs []
  | iso2022Jp => Iso2022.decode bs

/-- The text of bytes. -/
def decode (c : Codec) (bs : List UInt8) : Except Fault String := (c.decodeChars bs).map String.ofList

/-- The bytes of a text. Encodings that tell their byte order by a mark put the low byte first. -/
def encode (c : Codec) (s : String) : Except Unwritable (List UInt8) :=
  let cs := s.toList
  match c with
  | utf8 => .ok (Utf8.encode s)
  | utf8Marked => .ok (0xef :: 0xbb :: 0xbf :: Utf8.encode s)
  | utf16 => .ok (Wide.Order.little.bytes 2 0xfeff ++ cs.flatMap (Wide.write16 .little))
  | utf16Little => .ok (cs.flatMap (Wide.write16 .little))
  | utf16Big => .ok (cs.flatMap (Wide.write16 .big))
  | utf32 => .ok (Wide.Order.little.bytes 4 0xfeff ++ cs.flatMap (Wide.write32 .little))
  | utf32Little => .ok (cs.flatMap (Wide.write32 .little))
  | utf32Big => .ok (cs.flatMap (Wide.write32 .big))
  | ascii => Bytewise.encodeFrom 128 0 cs
  | latin1 => Bytewise.encodeFrom 256 0 cs
  | eucJp => encodeBy Jis.writeEuc 0 cs
  | shiftJis => encodeBy Jis.writeShifted 0 cs
  | codePage932 => encodeBy Jis.writeVendor 0 cs
  | iso2022Jp => Iso2022.encodeFrom .ascii 0 cs

/-- The name of the encoding and the reason in the wording for characters that it lacks. -/
def lack : Codec → String × String
  | ascii => ("ascii", "ordinal not in range(128)")
  | latin1 => ("latin-1", "ordinal not in range(256)")
  | c => (c.label, "illegal multibyte sequence")

/-- The escaped form of a character. -/
def escaped (c : Char) : String :=
  let n := c.toNat
  String.ofList ('\\' :: (if n < 0x100 then 'x' :: Text.hexPadded 2 n
    else if n < 0x10000 then 'u' :: Text.hexPadded 4 n else 'U' :: Text.hexPadded 8 n))

/-- The wording for characters that the encoding lacks. -/
def lackMessage (c : Codec) (u : Unwritable) : String :=
  let place :=
    if u.stop == u.start + 1 then "character '" ++ escaped u.first ++ "' in position " ++ toString u.start
    else "characters in position " ++ toString u.start ++ "-" ++ toString (u.stop - 1)
  "'" ++ c.lack.1 ++ "' codec can't encode " ++ place ++ ": " ++ c.lack.2

end Codec
end DeadCode
