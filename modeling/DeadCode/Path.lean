import DeadCode.Text.Basic

/-!
# Paths

A path is an anchor and a list of names. Empty names and single dots are dropped when a path is read; a pair of dots is
kept until the path is resolved, because what it leads to hangs on the directory before it.
-/

namespace DeadCode
set_option autoImplicit false

/-- Where a path starts: at the directory at hand, at the root, or at the root written with two slashes. -/
inductive Anchor where
  | here
  | root
  | doubleRoot
  deriving DecidableEq, Inhabited, Repr

/-- A path. -/
structure Path where
  anchor : Anchor := .here
  names : List String := []
  deriving DecidableEq, Inhabited, Repr

namespace Path

/-- The anchor of a written path: exactly two slashes in front differ from any other number. -/
def anchorOf (s : List Char) : Anchor :=
  match s with
  | '/' :: '/' :: '/' :: _ => .root
  | '/' :: '/' :: _ => .doubleRoot
  | '/' :: _ => .root
  | _ => .here

/-- The path that a text writes. -/
def ofString (s : String) : Path :=
  ⟨anchorOf s.toList, (Text.splitAt '/' s).filter fun n => !n.isEmpty && n != "."⟩

/-- The text of a path. -/
def text (p : Path) : String :=
  let names := Text.join "/" p.names
  match p.anchor with
  | .here => if p.names.isEmpty then "." else names
  | .root => "/" ++ names
  | .doubleRoot => "//" ++ names

/-- Does the path start at a root? -/
def isAbsolute (p : Path) : Bool := p.anchor != .here

/-- A path seen from another one. -/
def join (p q : Path) : Path := if q.isAbsolute then q else ⟨p.anchor, p.names ++ q.names⟩

/-- A written path below a path. -/
def below (p : Path) (s : String) : Path := p.join (ofString s)

/-- The last name. -/
def name (p : Path) : String := (p.names.getLast?).getD ""

/-- The directory that holds the path. -/
def parent (p : Path) : Path := { p with names := p.names.dropLast }

/-- The ending of a file name, from its last dot on. A name that starts or ends with its only dot has none. -/
def endingOf (name : String) : String :=
  let cs := name.toList
  let ending := Text.afterLast '.' cs
  match Text.beforeLast? '.' cs with
  | some before => if before.isEmpty || ending.isEmpty then "" else String.ofList ('.' :: ending)
  | none => ""

/-- The ending of the last name. -/
def ending (p : Path) : String := endingOf p.name

/-- The names with every pair of dots taken together with the name before it; `before` is what stands in front, in
reverse. -/
def withoutDots (before : List String) : List String → List String
  | [] => before.reverse
  | n :: ns => if n == ".." then withoutDots before.tail ns else withoutDots (n :: before) ns

/-- The path from the root, seen from a directory, without pairs of dots. -/
def resolve (here p : Path) : Path := ⟨.root, withoutDots [] (here.join p).names⟩

/-- The path as seen from a directory above it. -/
def relativeTo? (p base : Path) : Option Path :=
  if p.anchor == base.anchor && base.names.isPrefixOf p.names then some ⟨.here, p.names.drop base.names.length⟩ else none

end Path
end DeadCode
