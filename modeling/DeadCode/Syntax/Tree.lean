import DeadCode.Encoding.Utf8

/-!
# Syntax trees

A `Layout` is a tree of byte ranges of a source text; a `Node` is the same tree with the text and the line numbers
filled in. Nodes are named (parts of the grammar) or anonymous (punctuation and keywords), and a node may have a field
name in its parent.
-/

namespace DeadCode
set_option autoImplicit false

/-- A node as a range of bytes. `missing` marks a token that the text lacks and `flawed` a range with an error in it. -/
inductive Layout where
  | node (kind : String) (start stop : Nat) (named missing flawed : Bool) (field : Option String)
      (children : List Layout)
  deriving Inhabited, Repr

/-- What a node says of itself. Lines count from one. -/
structure NodeInfo where
  kind : String
  text : String
  line : Nat
  endLine : Nat
  named : Bool := true
  missing : Bool := false
  flawed : Bool := false
  field : Option String := none
  deriving DecidableEq, Inhabited, Repr

/-- A node of a syntax tree. -/
inductive Node where
  | mk (info : NodeInfo) (children : List Node)
  deriving Inhabited, Repr

namespace Node

/-- What the node says of itself. -/
def info : Node → NodeInfo
  | .mk i _ => i

/-- The nodes directly below. -/
def children : Node → List Node
  | .mk _ cs => cs

/-- The grammar name. -/
def kind (n : Node) : String := n.info.kind

/-- The source text. -/
def text (n : Node) : String := n.info.text

/-- First line. -/
def line (n : Node) : Nat := n.info.line

/-- Last line. -/
def endLine (n : Node) : Nat := n.info.endLine

/-- The named nodes directly below. -/
def namedChildren (n : Node) : List Node := n.children.filter (·.info.named)

/-- The first node below with a field name, and its place among the children. -/
def fieldIndex? (n : Node) (field : String) : Option Nat :=
  n.children.findIdx? fun c => c.info.field == some field

/-- The first node below with a field name. -/
def child? (n : Node) (field : String) : Option Node := n.children.find? fun c => c.info.field == some field

/-- The text of the first node below with a field name; empty where there is none. -/
def childText (n : Node) (field : String) : String := ((n.child? field).map text).getD ""

end Node

/-- A source text as bytes, with the places of its line feeds. -/
structure SourceText where
  bytes : ByteArray
  lineFeeds : List Nat

namespace SourceText

/-- Places of the line feeds among bytes, counted from `n`. -/
def feedsFrom : Nat → List UInt8 → List Nat
  | _, [] => []
  | n, b :: bs => if b == 10 then n :: feedsFrom (n + 1) bs else feedsFrom (n + 1) bs

/-- The source of a text. -/
def ofString (s : String) : SourceText :=
  let bs := Utf8.encode s
  ⟨ByteArray.mk bs.toArray, feedsFrom 0 bs⟩

/-- The text of a range. -/
def slice (src : SourceText) (start stop : Nat) : String :=
  Utf8.decodeDropping (src.bytes.extract start stop).toList

/-- The line of a byte. -/
def lineAt (src : SourceText) (place : Nat) : Nat := (src.lineFeeds.takeWhile (· < place)).length + 1

end SourceText

mutual

/-- A layout with its text and lines. -/
def Layout.toNode (src : SourceText) : Layout → Node
  | .node kind start stop named missing flawed field children =>
    .mk { kind, text := src.slice start stop, line := src.lineAt start, endLine := src.lineAt stop, named, missing,
          flawed, field } (Layout.toNodes src children)

/-- Layouts with their texts and lines. -/
def Layout.toNodes (src : SourceText) : List Layout → List Node
  | [] => []
  | l :: ls => l.toNode src :: Layout.toNodes src ls

end

end DeadCode
