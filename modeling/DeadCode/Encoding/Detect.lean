import DeadCode.Encoding.Charset
import DeadCode.Text.Pattern

/-!
# The encoding of a source file

A byte order mark tells the encoding, else a declaration near the start of the file does, else the first of some
encodings that fits. Where none fits, each byte is a character.
-/

namespace DeadCode
set_option autoImplicit false

/-- An encoding with the name that it was found under. -/
structure Detected where
  codec : Charset
  name : String
  deriving DecidableEq, Inhabited, Repr

/-- Why a source file cannot be read as text. -/
inductive EncodingError where
  | name (e : CodecError)
  | undecodable (told : String) (f : Fault)
  | breakdown (kind : String)
  deriving DecidableEq, Repr

/-- The wording of the error. -/
def EncodingError.message : EncodingError → String
  | .name e => e.message
  | .undecodable told f => "Cannot decode as " ++ told ++ ": " ++ f.flaw.reason ++ " at byte " ++ toString f.start
  | .breakdown kind => kind

namespace Encoding

/-- Byte order marks. The longer ones come first, since one of them starts like a shorter one. -/
def marks : List (List UInt8 × Codec) := [
  ([0xff, 0xfe, 0, 0], .utf32), ([0, 0, 0xfe, 0xff], .utf32), ([0xef, 0xbb, 0xbf], .utf8Marked),
  ([0xff, 0xfe], .utf16), ([0xfe, 0xff], .utf16)]

/-- Encodings that are tried, under these names. -/
def candidates : List (Codec × String) :=
  [(.utf8, "utf-8"), (.eucJp, "euc-jp"), (.shiftJis, "shift_jis"), (.codePage932, "cp932")]

open Text Pattern in
/-- A declaration of the encoding, in bytes taken as characters. Letters count in both cases. -/
def declaration : Pattern :=
  let blank := many (one fun c => c == ' ' || ('\t' ≤ c && c ≤ '\r'))
  let word := fun (w : String) => inOrder (w.toList.map fun p => one fun c => c.toNat < 128 && lowerChar c == p)
  let quote := one fun c => c == '\'' || c == '"'
  inOrder [word "declare", blank, Pattern.text "(", blank, word "encoding", blank, Pattern.text "=", blank, quote,
    keep "name" (many1 (one fun c => c != '\'' && c != '"')), quote, blank, Pattern.text ")"]

/-- The name in the first declaration of the encoding, in ASCII. -/
def declared? (bs : List UInt8) : Option String :=
  let head := (bs.take 1024).map fun b => Char.ofNat b.toNat
  ((declaration.search head).bind fun m => m.2.part? "name").map fun name =>
    String.ofList (name.toList.filter fun c => c.toNat < 128)

/-- The first candidate that fits. -/
def guess (bs : List UInt8) : Option Detected :=
  (candidates.find? fun d => match d.1.decodeChars bs with
    | .ok _ => true
    | .error _ => false).map fun d => ⟨.known d.1, d.2⟩

/-- The encoding of a file, if one is found. A declaration of an unknown encoding does not count. -/
def detect (g : Registry) (bs : List UInt8) : Except CodecError (Option Detected) :=
  match marks.find? fun m => m.1.isPrefixOf bs with
  | some m => .ok (some ⟨.known m.2, m.2.label⟩)
  | none =>
    match (declared? bs).map (Charset.ofName g) with
    | some (.ok c) => .ok (some ⟨c, c.label⟩)
    | some (.error .nullInName) => .error .nullInName
    | _ => .ok (guess bs)

/-- The encoding of a file; one in which every byte is a character if none is found. -/
def detectOrBytes (g : Registry) (bs : List UInt8) : Except CodecError Detected :=
  (detect g bs).map fun d => d.getD ⟨.known .latin1, "latin-1"⟩

/-- Does the configured name leave the encoding open? -/
def isAuto (name : String) : Bool := name.isEmpty || Text.lower name == "auto"

/-- The text of a source file without byte order marks at its start. -/
def textOf (g : Registry) (configured : String) (bs : List UInt8) : Except EncodingError String :=
  let found := if isAuto configured then detectOrBytes g bs
    else (Charset.ofName g configured).map fun c => ⟨c, configured⟩
  match found with
  | .error e => .error (.name e)
  | .ok d =>
    match d.codec.decodeChars g bs with
    | .error (.fault f) => .error (.undecodable d.name f)
    | .error (.breakdown kind) => .error (.breakdown kind)
    | .ok cs => .ok (String.ofList (cs.dropWhile fun c => c.toNat == 0xfeff))

end Encoding
end DeadCode
