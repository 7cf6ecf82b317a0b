import DeadCode.Php.Lexer
import DeadCode.Php.Statements
import DeadCode.Platform

/-!
# Programs

`tree` gives the tree of a source text. Comments and passages of plain text are put where they stand: into the smallest
node that has tokens on both sides of them. A source that does not fit the grammar gives a tree that is an error.
-/

namespace DeadCode.Php
set_option autoImplicit false

open Php.Parser

/-- The rules for a given depth of nesting. -/
def rules (limit : Nat) : Nat → Rules
  | 0 => { limit, expression := fun _ => fail, statement := fail, destructuring := fail }
  | n + 1 =>
    let r := rules limit n
    { limit, expression := expressionWith r, statement := statementWith r, destructuring := destructuringWith r }

/-- A statement of a program with a given number of tokens. -/
def statementAmong (n : Nat) : Parser Layout := (rules n (4 * n)).statement

/-- The statements of a program. -/
def statements (ts : List Token) : Option (List Layout) :=
  let n := ts.length + 2
  let atEnd : Parser Bool := do
    skipEndTags
    return (← next?).isNone
  ((untilHolds atEnd (return [← statementAmong n]) n).run ts).map (·.1)

/-- The tokens that are left where the first statement starts that does not fit, after at most a number of statements. -/
def unread (statement : Parser Layout) : Nat → List Token → List Token
  | 0, ts => ts
  | n + 1, ts =>
    match statement.run ts with
    | some (_, rest) => unread statement n rest
    | none => ts

/-- The place at which the first statement starts that does not fit. -/
def misfit (ts : List Token) : Nat :=
  let statement : Parser Layout := do
    skipEndTags
    statementAmong (ts.length + 2)
  let left := (unread statement ts.length ts).dropWhile (·.kind == .endTag)
  ((left.head?).map Token.start).getD 0

mutual

/-- An extra put into a node. -/
def insertExtra (extra : Layout) : Layout → Layout
  | .node k s t n m f field cs => .node k s t n m f field (insertAmong extra cs)

/-- An extra put among siblings: into the one that it stands in, or before the first one after it. -/
def insertAmong (extra : Layout) : List Layout → List Layout
  | [] => [extra]
  | c :: cs =>
    if extra.stop ≤ c.start then extra :: c :: cs
    else if c.start < extra.start && extra.stop ≤ c.stop then insertExtra extra c :: cs
    else c :: insertAmong extra cs

end

/-- The tree of a source that does not fit the grammar from some place on. -/
def brokenProgram (place stop : Nat) : Layout :=
  .node "program" 0 stop true false true none [.node "ERROR" place stop true false true none []]

/-- The layout of a source. -/
def layout (source : String) : Layout :=
  let stop := source.utf8ByteSize
  match Lexer.tokens source with
  | none => brokenProgram 0 stop
  | some t =>
    match statements t.tokens with
    | none => brokenProgram (misfit t.tokens) stop
    | some body =>
      let program := Layout.node "program" 0 stop true false false none (t.text.toList ++ t.tag.toList ++ body)
      t.extras.foldl (fun p e => insertExtra e p) program

/-- The tree of a source. -/
def tree (source : String) : Node := (layout source).toNode (SourceText.ofString source)

/-- The platform with this parser, and with the usual limits to data. -/
def platform : Platform := { tree, limits := { depth := some 980, digits := some 4300 } }

end DeadCode.Php
