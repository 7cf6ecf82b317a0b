import DeadCode.Json.Basic

/-!
# Reading data values

A reader that reports the first fault with its place: the number of characters before it, the line, and the column.
Not-a-number and the infinities are read as numbers; a byte order mark is refused. A platform may set limits to the nesting
of values and to the digits of integers.
-/

namespace DeadCode.Json
set_option autoImplicit false

/-- What is wrong with a text. -/
inductive Fault where
  | value
  | propertyName
  | colon
  | comma
  | extraData
  | controlCharacter
  | escape
  | unicodeEscape
  | unterminated
  | byteOrderMark
  | nesting
  | digits
  deriving DecidableEq, Repr

/-- The wording of a fault. -/
def Fault.text : Fault → String
  | .value => "Expecting value"
  | .propertyName => "Expecting property name enclosed in double quotes"
  | .colon => "Expecting ':' delimiter"
  | .comma => "Expecting ',' delimiter"
  | .extraData => "Extra data"
  | .controlCharacter => "Invalid control character at"
  | .escape => "Invalid \\escape"
  | .unicodeEscape => "Invalid \\uXXXX escape"
  | .unterminated => "Unterminated string starting at"
  | .byteOrderMark => "Unexpected UTF-8 BOM (decode using utf-8-sig)"
  | .nesting => "Nested too deeply"
  | .digits => "Too many digits"

/-- Is the fault one of size? -/
def Fault.isExcess : Fault → Bool
  | .nesting | .digits => true
  | _ => false

/-- How deep values may be nested, and how many digits an integer may have. -/
structure Limits where
  depth : Option Nat := none
  digits : Option Nat := none
  deriving DecidableEq, Inhabited, Repr

namespace Limits

/-- The limits inside an array or object; nothing if there may not be one. -/
def inner (l : Limits) : Option Limits :=
  match l.depth with
  | none => some l
  | some 0 => none
  | some (n + 1) => some { l with depth := some n }

/-- May an integer be as long as this one? -/
def allows (l : Limits) (n : Int) : Bool :=
  match l.digits with
  | none => true
  | some k => decide ((Nat.toDigits 10 n.natAbs).length ≤ k)

end Limits

/-- A fault and the number of characters from its place to the end of the text. -/
structure FaultAt where
  fault : Fault
  left : Nat
  deriving DecidableEq, Repr

/-- A reading step: a value and the rest of the text. -/
abbrev Step (α : Type) := Except FaultAt (α × List Char)

/-- A fault at the start of `rest`. -/
def faultAt {α : Type} (f : Fault) (rest : List Char) : Except FaultAt α := .error ⟨f, rest.length⟩

/-- Blanks of the format. -/
def isGap (c : Char) : Bool := c == ' ' || c == '\t' || c == '\n' || c == '\r'

/-- The text after its leading blanks. -/
def skipGaps (s : List Char) : List Char := s.dropWhile isGap

/-- Value of a hexadecimal digit. -/
def hexValue? (c : Char) : Option Nat :=
  if '0' ≤ c && c ≤ '9' then some (c.toNat - 48)
  else if 'a' ≤ c && c ≤ 'f' then some (c.toNat - 87)
  else if 'A' ≤ c && c ≤ 'F' then some (c.toNat - 55)
  else none

/-- Value of hexadecimal digits. -/
def hexNumber? (cs : List Char) : Option Nat :=
  cs.foldl (fun n c => match n, hexValue? c with
    | some a, some b => some (16 * a + b)
    | _, _ => none) (some 0)

/-- Four digits after the `u` of an escape; the text must go on after them. -/
def readUnit (s : List Char) : Option (Nat × List Char) :=
  if s.length ≤ 4 then none else (hexNumber? (s.take 4)).map (·, s.drop 4)

/-- The character of an escape of one letter. -/
def plainEscape? : Char → Option Char
  | '"' => some '"'
  | '\\' => some '\\'
  | '/' => some '/'
  | 'b' => some '\x08'
  | 'f' => some '\x0c'
  | 'n' => some '\n'
  | 'r' => some '\r'
  | 't' => some '\t'
  | _ => none

/-- The second half of a surrogate pair, if the text goes on with one. -/
def readLowUnit (s : List Char) : Option (Nat × List Char) :=
  match s with
  | '\\' :: 'u' :: r =>
    match readUnit r with
    | some (n, r') => if 0xdc00 ≤ n && n ≤ 0xdfff then some (n, r') else none
    | none => none
  | _ => none

/-- The character with this number. Half of a surrogate pair is none. -/
def unitChar (n : Nat) : Char := if n.isValidChar then Char.ofNat n else Char.ofNat 0xfffd

/-- The rest of a text after its opening quote. `start` is what stands from the quote on, `acc` what was read so far,
in reverse, and the number bounds the steps. -/
def readText (start : List Char) : Nat → List Char → List Char → Step String
  | 0, _, _ => faultAt .unterminated start
  | _ + 1, _, [] => faultAt .unterminated start
  | _ + 1, acc, '"' :: r => .ok (String.ofList acc.reverse, r)
  | _ + 1, _, ['\\'] => faultAt .unterminated start
  | n + 1, acc, '\\' :: 'u' :: r =>
    match readUnit r with
    | none => faultAt .unicodeEscape ('u' :: r)
    | some (u, r') =>
      if 0xd800 ≤ u && u ≤ 0xdbff then
        match readLowUnit r' with
        | some (l, r'') => readText start n (Char.ofNat (0x10000 + (u - 0xd800) * 0x400 + (l - 0xdc00)) :: acc) r''
        | none => readText start n (unitChar u :: acc) r'
      else readText start n (unitChar u :: acc) r'
  | n + 1, acc, '\\' :: e :: r =>
    match plainEscape? e with
    | some c => readText start n (c :: acc) r
    | none => faultAt .escape ('\\' :: e :: r)
  | n + 1, acc, c :: r =>
    if c.toNat < 0x20 then faultAt .controlCharacter (c :: r) else readText start n (c :: acc) r

/-- Decimal digits at the start. -/
def digitsOf (s : List Char) : List Char := s.takeWhile fun c => '0' ≤ c && c ≤ '9'

/-- Value of decimal digits. -/
def natOf (ds : List Char) : Nat := ds.foldl (fun n c => 10 * n + (c.toNat - 48)) 0

/-- The fraction of a number: the digits after a point. -/
def readFraction : List Char → List Char × List Char
  | '.' :: r => let ds := digitsOf r; if ds.isEmpty then ([], '.' :: r) else (ds, r.drop ds.length)
  | r => ([], r)

/-- The exponent of a number. -/
def readExponent (s : List Char) : Option Int × List Char :=
  match s with
  | e :: r =>
    if e == 'e' || e == 'E' then
      let (neg, r') := match r with
        | '-' :: r' => (true, r')
        | '+' :: r' => (false, r')
        | r' => (false, r')
      let ds := digitsOf r'
      if ds.isEmpty then (none, s)
      else (some (if neg then -(natOf ds : Int) else natOf ds), r'.drop ds.length)
    else (none, s)
  | [] => (none, s)

/-- The digits of a number up to its point. A zero at the start stands alone. -/
def wholeDigits : List Char → List Char
  | '0' :: _ => ['0']
  | r => digitsOf r

/-- A number after its sign. -/
def readUnsigned (neg : Bool) (s : List Char) : Option (Json × List Char) :=
  let whole := wholeDigits s
  if whole.isEmpty then none else
  let (fraction, r) := readFraction (s.drop whole.length)
  let (exponent, r) := readExponent r
  if fraction.isEmpty && exponent.isNone then
    some (.int (if neg then -(natOf whole : Int) else natOf whole), r)
  else
    some (.real (Decimal.ofDigits neg (natOf (whole ++ fraction)) (exponent.getD 0 - (fraction.length : Int))), r)

/-- A number. -/
def readNumber : List Char → Option (Json × List Char)
  | '-' :: r => readUnsigned true r
  | r => readUnsigned false r

/-- The words of the format. -/
def wordValues : List (List Char × Json) := [
  ("null".toList, .null), ("true".toList, .bool true), ("false".toList, .bool false),
  ("NaN".toList, .real .undefined), ("Infinity".toList, .real (.infinite false)),
  ("-Infinity".toList, .real (.infinite true))]

/-- A word or a number. -/
def readScalar (l : Limits) (s : List Char) : Step Json :=
  match wordValues.find? fun w => w.1.isPrefixOf s with
  | some w => .ok (w.2, s.drop w.1.length)
  | none =>
    match readNumber s with
    | some (.int n, r) => if l.allows n then .ok (.int n, r) else faultAt .digits s
    | some r => .ok r
    | none => faultAt .value s

mutual

/-- A value at the start of the text; the number bounds the nesting and the lengths. -/
def readValue : Limits → Nat → List Char → Step Json
  | _, 0, s => faultAt .value s
  | l, n + 1, s =>
    match s with
    | '"' :: r => (readText s (n + 1) [] r).map fun p => (.str p.1, p.2)
    | '{' :: r =>
      match l.inner, skipGaps r with
      | none, _ => faultAt .nesting s
      | some _, '}' :: r' => .ok (.obj [], r')
      | some l, r' => readMembers l n [] r'
    | '[' :: r =>
      match l.inner, skipGaps r with
      | none, _ => faultAt .nesting s
      | some _, ']' :: r' => .ok (.arr [], r')
      | some l, r' => readItems l n [] r'
    | s => readScalar l s

/-- The items of an array from the next one on. -/
def readItems : Limits → Nat → List Json → List Char → Step Json
  | _, 0, _, s => faultAt .value s
  | l, n + 1, acc, s =>
    match readValue l n s with
    | .error e => .error e
    | .ok (v, r) =>
      match skipGaps r with
      | ']' :: r' => .ok (.arr (v :: acc).reverse, r')
      | ',' :: r' => readItems l n (v :: acc) (skipGaps r')
      | r' => faultAt .comma r'

/-- The members of an object from the next one on. -/
def readMembers : Limits → Nat → List (String × Json) → List Char → Step Json
  | _, 0, _, s => faultAt .propertyName s
  | l, n + 1, acc, s =>
    match s with
    | '"' :: r =>
      match readText s (n + 1) [] r with
      | .error e => .error e
      | .ok (k, r) =>
        match skipGaps r with
        | ':' :: r =>
          match readValue l n (skipGaps r) with
          | .error e => .error e
          | .ok (v, r) =>
            match skipGaps r with
            | '}' :: r' => .ok (.obj (Assoc.ofPairs ((k, v) :: acc).reverse), r')
            | ',' :: r' => readMembers l n ((k, v) :: acc) (skipGaps r')
            | r' => faultAt .comma r'
        | r => faultAt .colon r
    | s => faultAt .propertyName s

end

/-- A fault with the number of characters before it, its line and its column. -/
structure ReadError where
  fault : Fault
  position : Nat
  line : Nat
  column : Nat
  deriving DecidableEq, Repr

/-- The wording of a fault with its place. -/
def ReadError.message (e : ReadError) : String :=
  e.fault.text ++ ": line " ++ toString e.line ++ " column " ++ toString e.column ++ " (char " ++
    toString e.position ++ ")"

/-- Where a fault lies in the text. -/
def FaultAt.locate (text : List Char) (f : FaultAt) : ReadError :=
  let before := text.take (text.length - f.left)
  ⟨f.fault, before.length, Text.lineFeeds before + 1, (Text.afterLast '\n' before).length + 1⟩

/-- The value of a whole text. -/
def read (s : String) (l : Limits := {}) : Except ReadError Json :=
  let text := s.toList
  let result : Except FaultAt Json :=
    if Text.startsWith s "\uFEFF" then .error ⟨.byteOrderMark, text.length⟩ else
    match readValue l (2 * text.length + 2) (skipGaps text) with
    | .error e => .error e
    | .ok (v, r) =>
      match skipGaps r with
      | [] => .ok v
      | r' => faultAt .extraData r'
  result.mapError (·.locate text)

end DeadCode.Json
