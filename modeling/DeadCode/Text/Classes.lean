import DeadCode.Text.Basic
import DeadCode.Text.ClassTable

/-!
# Classes of characters

Words, digits and printable characters over the whole character set, decided in ASCII without a table.
-/

namespace DeadCode.Text
set_option autoImplicit false

/-- ASCII letter. -/
def isAsciiLetter (c : Char) : Bool := ('a' ≤ c && c ≤ 'z') || ('A' ≤ c && c ≤ 'Z')

/-- ASCII digit. -/
def isAsciiDigit (c : Char) : Bool := '0' ≤ c && c ≤ '9'

/-- ASCII letter, digit or underscore. -/
def isAsciiWord (c : Char) : Bool := isAsciiLetter c || isAsciiDigit c || c == '_'

/-- Letter, number or underscore of any script. -/
def isWord (c : Char) : Bool := if c.toNat < 128 then isAsciiWord c else inRanges wordRanges c.toNat

/-- Decimal digit of any script. -/
def isDigit (c : Char) : Bool := if c.toNat < 128 then isAsciiDigit c else inRanges digitRanges c.toNat

/-- Characters that a quoted text shows as they are. -/
def isPrintable (c : Char) : Bool :=
  if c.toNat < 128 then 32 ≤ c.toNat && c.toNat < 127 else !inRanges hiddenRanges c.toNat

end DeadCode.Text
