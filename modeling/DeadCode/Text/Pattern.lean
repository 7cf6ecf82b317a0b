import DeadCode.Text.Blank
import DeadCode.Text.Classes

/-!
# Search patterns

Patterns that are looked for in a text from left to right. Alternatives are tried in order, repetitions take as much as
they can, or as little, and give way where the rest of the pattern needs it. Parts of a match can be kept by name.
-/

namespace DeadCode.Text
set_option autoImplicit false

/-- A pattern. -/
inductive Pattern where
  | one (p : Char → Bool)
  | chars (cs : List Char)
  | seq (a b : Pattern)
  | either (a b : Pattern)
  | many (a : Pattern)
  | manyLazy (a : Pattern)
  | times (n : Nat) (a : Pattern)
  | upTo (n : Nat) (a : Pattern)
  | keep (name : String) (a : Pattern)
  | wordEdge
  | notAfter (p : Char → Bool)
  | never

/-- A place in a text: the character before it, what follows and how long that is, the line, and the parts kept so
far. -/
structure Spot where
  before : Option Char := none
  rest : List Char
  left : Nat
  line : Nat := 1
  kept : List (String × String) := []

namespace Spot

/-- The start of a text. -/
def start (s : List Char) : Spot := { rest := s, left := s.length }

/-- The place after the next character. -/
def next (s : Spot) : Spot :=
  match s.rest with
  | [] => s
  | c :: cs =>
    { s with before := some c, rest := cs, left := s.left - 1, line := if c == '\n' then s.line + 1 else s.line }

/-- The part kept under a name. -/
def part? (s : Spot) (name : String) : Option String := s.kept.lookup name

end Spot

namespace Pattern

/-- What is to happen after a match of a part. -/
abbrev Next := Spot → Option Spot

/-- The place after given characters, if they stand here. -/
def chars? : List Char → Spot → Option Spot
  | [], s => some s
  | p :: ps, s =>
    match s.rest with
    | c :: _ => if c == p then chars? ps s.next else none
    | [] => none

/-- Repeats as often as possible. A round that takes nothing ends the repetition. -/
def repeated (round : Spot → Next → Option Spot) : Nat → Spot → Next → Option Spot
  | 0, s, k => k s
  | n + 1, s, k =>
    match round s fun t => if t.left < s.left then repeated round n t k else none with
    | some t => some t
    | none => k s

/-- Repeats as rarely as possible. -/
def repeatedLazy (round : Spot → Next → Option Spot) : Nat → Spot → Next → Option Spot
  | 0, s, k => k s
  | n + 1, s, k =>
    match k s with
    | some t => some t
    | none => round s fun t => if t.left < s.left then repeatedLazy round n t k else none

/-- Repeats a number of times. -/
def exactly (round : Spot → Next → Option Spot) : Nat → Spot → Next → Option Spot
  | 0, s, k => k s
  | n + 1, s, k => round s fun t => exactly round n t k

/-- The first match of a pattern here after which `k` succeeds. -/
def run : Pattern → Spot → Next → Option Spot
  | one p, s, k =>
    match s.rest with
    | c :: _ => if p c then k s.next else none
    | [] => none
  | chars cs, s, k => (chars? cs s).bind k
  | seq a b, s, k => a.run s fun t => b.run t k
  | either a b, s, k =>
    match a.run s k with
    | some t => some t
    | none => b.run s k
  | many a, s, k => repeated a.run s.left s k
  | manyLazy a, s, k => repeatedLazy a.run s.left s k
  | times n a, s, k => exactly a.run n s k
  | upTo n a, s, k => repeated a.run n s k
  | keep name a, s, k =>
    a.run s fun t => k { t with kept := (name, String.ofList (s.rest.take (s.left - t.left))) :: t.kept }
  | wordEdge, s, k =>
    if (s.before.map isWord).getD false != (s.rest.head?.map isWord).getD false then k s else none
  | notAfter p, s, k => if (s.before.map p).getD false then none else k s
  | never, _, _ => none

/-- One pattern after the other. -/
def inOrder : List Pattern → Pattern
  | [] => chars []
  | [p] => p
  | p :: ps => seq p (inOrder ps)

/-- One of the patterns, the first that fits. -/
def oneOf : List Pattern → Pattern
  | [] => never
  | [p] => p
  | p :: ps => either p (oneOf ps)

/-- Given characters. -/
def text (s : String) : Pattern := chars s.toList

/-- Space of any length. -/
def gap : Pattern := many (one isBlank)

/-- A repetition of at least one. -/
def many1 (p : Pattern) : Pattern := seq p (many p)

/-- A pattern that may be left out. -/
def maybe (p : Pattern) : Pattern := upTo 1 p

/-- The matches in what is left of a text: each starts after the end of the one before. -/
def matchesFrom (p : Pattern) : Nat → Spot → List (Spot × Spot)
  | 0, s =>
    match p.run s some with
    | some t => [(s, t)]
    | none => []
  | n + 1, s =>
    match p.run s some with
    | some t => if t.left < s.left then (s, t) :: matchesFrom p n { t with kept := [] } else (s, t) :: matchesFrom p n s.next
    | none => if s.rest.isEmpty then [] else matchesFrom p n s.next

/-- The matches of a pattern in a text, each with its start and its end. -/
def matchesIn (p : Pattern) (s : List Char) : List (Spot × Spot) := matchesFrom p s.length (Spot.start s)

/-- The first match of a pattern in a text. -/
def search (p : Pattern) (s : List Char) : Option (Spot × Spot) := (p.matchesIn s).head?

end Pattern
end DeadCode.Text
