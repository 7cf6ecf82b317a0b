import DeadCode.Record.Import
import DeadCode.Syntax.Names

/-!
# Imports of a `use` statement

The names that a `use` declaration brings in, grouped ones with their common prefix in front.
-/

namespace DeadCode.Collect
set_option autoImplicit false

/-- The kind of import that the keywords below a node ask for. -/
def importKind (n : Node) (default : String) : String :=
  match n.children.find? fun c => c.kind == "function" || c.kind == "const" with
  | some c => if c.kind == "function" then "function" else "constant"
  | none => default

/-- What is known of a clause while its children are read: the alias with its place, if it is a child itself, and the
imported name. -/
structure ClauseParts where
  asName : Option Node := none
  aliasPlace : Option Nat := none
  target : Option Node := none

/-- One more child of a clause. -/
def ClauseParts.step (p : ClauseParts) (child : Node × Nat) : ClauseParts :=
  if !child.1.info.named then p
  else if child.1.kind == "namespace_aliasing_clause" then
    match (child.1.namedChildren.filter (·.kind == "name")).getLast? with
    | some a => { p with asName := some a, aliasPlace := none }
    | none => p
  else if child.1.isName && p.target.isNone && p.aliasPlace != some child.2 then { p with target := some child.1 }
  else p

/-- The import of one clause. -/
def clauseImport (clause : Node) (base kind : String) (line : Nat) (file : String) : Option Import :=
  let parts := clause.children.zipIdx.foldl ClauseParts.step
    { asName := clause.child? "alias", aliasPlace := clause.fieldIndex? "alias" }
  parts.target.map fun target =>
    let name := Name.unrooted (Name.clean target.text)
    let fqn := if base.isEmpty then name else base ++ "\\" ++ name
    let written := (parts.asName.map Node.text).getD ""
    { fqn, asName := if written.isEmpty then Name.short fqn else written, line, kind := importKind clause kind, file,
      explicitAlias := !written.isEmpty }

/-- The prefix in force and the imports so far. -/
structure ImportParts where
  base : String := ""
  imports : List Import := []

/-- One more child of a declaration. -/
def ImportParts.step (kind : String) (line : Nat) (file : String) (p : ImportParts) (child : Node) : ImportParts :=
  if child.kind == "namespace_name" then { p with base := Name.trimSeparators (Name.clean child.text) }
  else if child.kind == "namespace_use_clause" then
    { p with imports := p.imports ++ (clauseImport child "" kind line file).toList }
  else if child.kind == "namespace_use_group" then
    let clauses := child.namedChildren.filter fun c =>
      c.kind == "namespace_use_clause" || c.kind == "namespace_use_group_clause"
    { p with imports := p.imports ++ clauses.filterMap fun c => clauseImport c p.base kind line file }
  else p

/-- The imports of a `use` declaration, all on its first line. -/
def importsOf (declaration : Node) (file : String) : List Import :=
  let step := ImportParts.step (importKind declaration "class") declaration.line file
  (declaration.namedChildren.foldl step {}).imports

end DeadCode.Collect
