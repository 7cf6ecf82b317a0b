import DeadCode.Php.Token

/-!
# Parsers over tokens

A parser takes tokens from the front of a list and gives a layout, or fails. Rules of the grammar that contain
each other go through `Rules`, whose members are one level of nesting smaller than the rule that uses them.
-/

namespace DeadCode

namespace Layout
set_option autoImplicit false

/-- First byte. -/
def start : Layout → Nat
  | .node _ s _ _ _ _ _ _ => s

/-- The byte after the last. -/
def stop : Layout → Nat
  | .node _ _ s _ _ _ _ _ => s

/-- The grammar name. -/
def kind : Layout → String
  | .node k _ _ _ _ _ _ _ => k

/-- The layout with a field name. -/
def inField (l : Layout) (field : String) : Layout :=
  match l with
  | .node k s t n m f _ cs => .node k s t n m f (some field) cs

/-- A named node around other layouts. -/
def branch (kind : String) (cs : List Layout) : Layout :=
  .node kind ((cs.head?.map start).getD 0) ((cs.getLast?.map stop).getD 0) true false false none cs

end Layout

namespace Php
set_option autoImplicit false

/-- A parser. -/
abbrev Parser (α : Type) := StateT (List Token) Option α

/-- The rules of the grammar that contain each other. An expression is given the least binding strength of its
operators; `limit` bounds every repetition. -/
structure Rules where
  limit : Nat
  expression : Nat → Parser Layout
  statement : Parser Layout
  destructuring : Parser Layout

/-- A token as a named leaf. -/
def Token.leaf (t : Token) (kind : String) : Layout := .node kind t.start t.stop true false false none []

/-- A token as an anonymous leaf. -/
def Token.mark (t : Token) : Layout := .node t.key t.start t.stop false false false none []

namespace Parser

/-- No result. -/
def fail {α : Type} : Parser α := fun _ => none

/-- The next token. -/
def next? : Parser (Option Token) := fun ts => some (ts.head?, ts)

/-- The token after the next. -/
def second? : Parser (Option Token) := fun ts => some (ts.tail.head?, ts)

/-- Takes a token. -/
def take : Parser Token
  | [] => none
  | t :: ts => some (t, ts)

/-- Is the next token this sign? -/
def atSign (s : String) : Parser Bool := do return ((← next?).map (·.isSign s)).getD false

/-- Is the next token this word? -/
def atWord (w : String) : Parser Bool := do return ((← next?).map (·.isWord w)).getD false

/-- Is the token after the next this sign? -/
def thenSign (s : String) : Parser Bool := do return ((← second?).map (·.isSign s)).getD false

/-- Is the token after the next this word? -/
def thenWord (w : String) : Parser Bool := do return ((← second?).map (·.isWord w)).getD false

/-- Is the token after the next a word? -/
def thenAnyWord : Parser Bool := do return ((← second?).map (·.kind == .word)).getD false

/-- Takes a sign. -/
def sign (s : String) : Parser Layout := do
  let t ← take
  if t.isSign s then return t.mark else fail

/-- Takes a word. -/
def word (w : String) : Parser Layout := do
  let t ← take
  if t.isWord w then return t.mark else fail

/-- Takes any word as a name. -/
def name : Parser Layout := do
  let t ← take
  if t.kind == .word then return t.leaf "name" else fail

/-- Takes a sign if it is there. -/
def sign? (s : String) : Parser (List Layout) := do
  if ← atSign s then return [← sign s] else return []

/-- Takes a word if it is there. -/
def word? (w : String) : Parser (List Layout) := do
  if ← atWord w then return [← word w] else return []

/-- Passes over ends of code that no statement needs. -/
def skipEndTags : Parser Unit := fun ts => some ((), ts.dropWhile (·.kind == .endTag))

/-- The end of a statement: a semicolon, or the end of the code, which takes no room. -/
def semicolon : Parser Layout := do
  let t ← take
  if t.isSign ";" || t.kind == .endTag then return t.mark else fail

/-- Repeats a parser until a test holds. -/
def untilHolds (test : Parser Bool) (p : Parser (List Layout)) : Nat → Parser (List Layout)
  | 0 => fail
  | n + 1 => do
    if ← test then return []
    else
      let xs ← p
      return xs ++ (← untilHolds test p n)

/-- Items with commas between them, at least one. -/
def separated (sep : String) (item : Parser (List Layout)) : Nat → Parser (List Layout)
  | 0 => fail
  | n + 1 => do
    let xs ← item
    if ← atSign sep then
      let c ← sign sep
      return xs ++ c :: (← separated sep item n)
    else return xs

/-- Items with commas between them up to a closing sign, a last comma allowed, and the sign. -/
def listUpTo (close : String) (item : Parser (List Layout)) : Nat → Parser (List Layout)
  | 0 => fail
  | n + 1 => do
    if ← atSign close then return [← sign close]
    let xs ← item
    if ← atSign "," then
      let c ← sign ","
      return xs ++ c :: (← listUpTo close item n)
    else return xs ++ [← sign close]

/-- Items as in `listUpTo`, at least one. -/
def someUpTo (close : String) (item : Parser (List Layout)) (limit : Nat) : Parser (List Layout) := do
  if ← atSign close then fail else listUpTo close item limit

end Parser
end Php
end DeadCode
