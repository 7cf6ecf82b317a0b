import DeadCode.Encoding.Codec

/-!
# All encodings of a platform

A platform knows many more encodings than those written out in `Codec`. What it has under which name, and how each of them reads
and writes, is left open here: a `Registry` is any such table. Its encodings need not be well behaved. Besides finding fault with
the bytes, reading may break off in a way that nobody expects, as for one that is no encoding of texts.
-/

namespace DeadCode
set_option autoImplicit false

/-- Why bytes are no text: a fault in them, or an error of the encoding itself, told by its kind. -/
inductive DecodeError where
  | fault (f : Fault)
  | breakdown (kind : String)
  deriving DecidableEq, Repr

/-- Why a text cannot be written: characters that the encoding lacks, in its wording, or an error of the encoding itself. -/
inductive EncodeError where
  | lacking (message : String)
  | breakdown (kind : String)
  deriving DecidableEq, Repr

/-- The other encodings of a platform. `find` gives the canonical name of an encoding, if there is one. -/
structure Registry where
  find : String → Option String := fun _ => none
  decode : String → List UInt8 → Except DecodeError (List Char) := fun _ _ => .ok []
  encode : String → List Char → Except EncodeError (List UInt8) := fun _ _ => .ok []
  deriving Inhabited

/-- An encoding: one of those written out, or another one by its canonical name. -/
inductive Charset where
  | known (c : Codec)
  | other (name : String)
  deriving DecidableEq, Inhabited, Repr

namespace Charset

/-- The canonical name. -/
def label : Charset → String
  | known c => c.label
  | other name => name

/-- The encoding with this canonical name. -/
def ofLabel (name : String) : Charset :=
  match Codec.ofName name with
  | .ok c => known c
  | .error _ => other name

/-- The encoding with this name. -/
def ofName (g : Registry) (name : String) : Except CodecError Charset :=
  match Codec.ofName name with
  | .ok c => .ok (known c)
  | .error .nullInName => .error .nullInName
  | .error (.unknown _) =>
    match g.find (Codec.keyOf name) with
    | some found => .ok (ofLabel found)
    | none => .error (.unknown name)

/-- What a name can stand for: an encoding that is written out, or one of the platform. -/
theorem ofName_eq_ok {g : Registry} {name : String} {c : Charset} (found : ofName g name = .ok c) :
    (∃ codec, c = known codec) ∨ ∃ label, c = ofLabel label := by
  unfold ofName at found
  generalize Codec.ofName name = result at found
  rcases result with (_ | _) | codec
  · dsimp only at found
    split at found
    · next label _ => exact Or.inr ⟨label, (Except.ok.inj found).symm⟩
    · cases found
  · cases found
  · exact Or.inl ⟨codec, (Except.ok.inj found).symm⟩

/-- The text of bytes. -/
def decodeChars (g : Registry) : Charset → List UInt8 → Except DecodeError (List Char)
  | known c, bs => (c.decodeChars bs).mapError .fault
  | other name, bs => g.decode name bs

theorem decodeChars_known {g : Registry} {c : Codec} {bs : List UInt8} {cs : List Char} (read : c.decodeChars bs = .ok cs) :
    (known c).decodeChars g bs = .ok cs := by
  rw [decodeChars, read]
  rfl

/-- Only the other encodings can break off. -/
theorem decodeChars_known_ne {g : Registry} {c : Codec} {bs : List UInt8} {kind : String} :
    (known c).decodeChars g bs ≠ .error (.breakdown kind) := by
  rw [decodeChars]
  cases c.decodeChars bs <;> nofun

/-- The text of bytes. -/
def decode (g : Registry) (c : Charset) (bs : List UInt8) : Except DecodeError String :=
  (c.decodeChars g bs).map String.ofList

/-- The bytes of a text. -/
def encode (g : Registry) : Charset → String → Except EncodeError (List UInt8)
  | known c, s => (c.encode s).mapError fun u => .lacking (c.lackMessage u)
  | other name, s => g.encode name s.toList

theorem decode_known_ne {g : Registry} {c : Codec} {bs : List UInt8} {kind : String} :
    (known c).decode g bs ≠ .error (.breakdown kind) := by
  rw [decode]
  cases read : (known c).decodeChars g bs with
  | ok cs => nofun
  | error e =>
    rintro ⟨⟩
    exact decodeChars_known_ne read

theorem decode_known_eq_ok {g : Registry} {c : Codec} {bs : List UInt8} {s : String} :
    (known c).decode g bs = .ok s ↔ c.decode bs = .ok s := by
  rw [decode, decodeChars, Codec.decode]
  cases c.decodeChars bs with
  | ok cs => exact ⟨fun h => by cases h; rfl, fun h => by cases h; rfl⟩
  | error e => exact ⟨nofun, nofun⟩

theorem encode_known_eq_ok {g : Registry} {c : Codec} {bs : List UInt8} {s : String} :
    (known c).encode g s = .ok bs ↔ c.encode s = .ok bs := by
  rw [encode]
  cases c.encode s with
  | ok bs => exact ⟨fun h => by cases h; rfl, fun h => by cases h; rfl⟩
  | error e => exact ⟨nofun, nofun⟩

end Charset
end DeadCode
