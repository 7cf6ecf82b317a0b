import DeadCode.Syntax.Tree
import DeadCode.Text.Basic

/-!
# Tokens of PHP code

The words, signs, numbers and texts of a source, each with its range of bytes. Gaps are left out; comments and passages
of plain text between code are kept apart as extras, since they may stand between any two tokens.
-/

namespace DeadCode.Php
set_option autoImplicit false

/-- The kinds of tokens. A text with code in it is an `opening`, then pieces and code, then a `closing`. `endTag` stands
for the end of a passage of code, which may end a statement. -/
inductive TokenKind where
  | word
  | sign
  | integer
  | float
  | text
  | rawBlock
  | opening (node : String)
  | piece
  | closing
  | endTag
  deriving DecidableEq, Inhabited, Repr

/-- A token. The key of a word is the word in small letters, that of any other token its text. -/
structure Token where
  kind : TokenKind
  key : String
  start : Nat
  stop : Nat
  deriving DecidableEq, Inhabited, Repr

namespace Token

/-- Is the token this word? -/
def isWord (t : Token) (word : String) : Bool := t.kind == .word && t.key == word

/-- Is the token this sign? -/
def isSign (t : Token) (sign : String) : Bool := t.kind == .sign && t.key == sign

end Token

/-- Space between tokens. -/
def isGap (c : Char) : Bool :=
  [0x20, 0x09, 0x0A, 0x0B, 0x0C, 0x0D, 0xA0, 0x200B, 0x2060, 0xFEFF].contains c.toNat

/-- Can a name start with the character? -/
def isNameStart (c : Char) : Bool :=
  c == '_' || c.isAlpha ||
    ((0x80 ≤ c.toNat && c.toNat ≤ 0x10FFFF) && !([0xA0, 0x200B, 0x2060, 0xFEFF].contains c.toNat))

/-- Can a name go on with the character? -/
def isNamePart (c : Char) : Bool := isNameStart c || c.isDigit

/-- The signs, longer ones before their beginnings. -/
def signs : List (List Char) := [
  "**=", "...", "<=>", "===", "!==", "<<=", ">>=", "??=", "?->",
  "**", "++", "--", "->", "=>", "::", "<<", ">>", "<=", ">=", "==", "!=", "<>", "&&", "||", "??", "+=", "-=", "*=", "/=",
  ".=", "%=", "&=", "|=", "^=", "#[",
  "+", "-", "*", "/", "%", "=", "<", ">", "!", "~", "&", "|", "^", ".", ",", ";", ":", "?", "(", ")", "[", "]",
  "\x7b", "\x7d", "$", "@", "\\"].map String.toList

end DeadCode.Php
