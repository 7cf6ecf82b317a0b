import DeadCode.Encoding.Charset
import DeadCode.Disk
import DeadCode.Json.Reader
import DeadCode.Syntax.Verdict

/-!
# What a program stands on

A program is given a parser, encodings and a file system that it does not make itself. What they do is left open here: a
`Platform` is any choice of them.
-/

namespace DeadCode
set_option autoImplicit false

/-- The things around a program. `tree` is the parser: it gives a tree for every text, with the errors marked in it.
`pathBytes` is a file name in UTF-8, which some names do not have: a system may take any bytes for a name. `directoryStat` is
the time of the last change of a directory and its size, and `limits` are those to data that is read. -/
structure Platform where
  tree : String → Node
  codecs : Registry := {}
  pathBytes : String → Option (List UInt8) := fun name => some (Utf8.encode name)
  directoryStat : Path → Decimal × Nat := fun _ => (Decimal.ofInt 0, 0)
  limits : Json.Limits := {}
  deriving Inhabited

/-- The tree of a source text, or the error in it. -/
def Platform.parse (p : Platform) (text : String) : Except ParseError Node := do
  let root := p.tree text
  root.verdict
  return root

end DeadCode
