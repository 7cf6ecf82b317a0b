import DeadCode.Text.Basic
import DeadCode.Text.CaseTable

/-!
# Letter case

`lower` is the lower-case form of a text: letter by letter, but for the dotted capital I, which becomes two
characters, and for the capital sigma, which takes its final form at the end of a word. `lowerChar` is the one-letter
form, and `sameLetter` compares single characters without regard to case.
-/

namespace DeadCode.Text
set_option autoImplicit false

/-- The one-character lower-case form. -/
def lowerChar (c : Char) : Char :=
  if c.toNat < 128 then
    if 'A' ≤ c && c ≤ 'Z' then Char.ofNat (c.toNat + 32) else c
  else
    match lowerRuns.find? fun r => r.1 ≤ c.toNat && c.toNat ≤ r.2.1 && (c.toNat - r.1) % r.2.2.1 == 0 with
    | some r => Char.ofNat (r.2.2.2 + (c.toNat - r.1))
    | none => c

/-- Upper-, lower- and title-case letters. -/
def isCased (c : Char) : Bool :=
  if c.toNat < 128 then ('a' ≤ c && c ≤ 'z') || ('A' ≤ c && c ≤ 'Z') else inRanges casedRanges c.toNat

/-- Characters that are passed over when the end of a word is looked for. -/
def isCaseIgnorable (c : Char) : Bool :=
  if c.toNat < 128 then c == '\'' || c == '.' || c == ':' || c == '^' || c.toNat == 0x60
  else inRanges caseIgnorableRanges c.toNat

/-- Is the first character that is not passed over a cased letter? -/
def meetsCased (s : List Char) : Bool := ((s.dropWhile isCaseIgnorable).head?.map isCased).getD false

/-- Lower-case form of a text, given what precedes it in reverse. -/
def lowerFrom : List Char → List Char → List Char
  | _, [] => []
  | before, c :: cs =>
    let image :=
      if c.toNat = 0x130 then ['i', Char.ofNat 0x307]
      else if c.toNat = 0x3a3 then
        [Char.ofNat (if meetsCased before && !meetsCased cs then 0x3c2 else 0x3c3)]
      else [lowerChar c]
    image ++ lowerFrom (c :: before) cs

/-- Lower-case form of a text. -/
def lower (s : String) : String :=
  if s.toList.all (·.toNat < 128) then String.ofList (s.toList.map lowerChar)
  else String.ofList (lowerFrom [] s.toList)

/-- Do two characters differ at most in case? The two may also be different lower-case shapes of one letter. -/
def sameLetter (p c : Char) : Bool :=
  p == c || lowerChar p == lowerChar c ||
    ((letterSiblings.lookup (lowerChar p).toNat).getD []).contains (lowerChar c).toNat

end DeadCode.Text
