import DeadCode.Analysis.Rule
import DeadCode.Fix.Outcome
import DeadCode.Name
import DeadCode.Text.Pattern

/-!
# Removal of unused imports

An import that stands alone on its line is removed with the line. Blank lines that would then stand in a row after
another blank line go with it, so that no gap grows; everything above the line stays where it is.
-/

namespace DeadCode.Fix
set_option autoImplicit false

/-- Can the issue be repaired by removing a line? -/
def isImportIssue (i : Issue) : Bool := i.rule == Rule.imports.label && !i.file.isEmpty && 0 < i.line

/-- Does a symbol name an import: by its alias, its full name or the end of its full name? -/
def namesImport (imported : String) (alias_ : Option String) (symbol : String) : Bool :=
  let symbol := Text.trimStart (· == '\\') symbol
  alias_ == some symbol || imported == symbol || Name.short imported == symbol ||
    Text.endsWith imported ("\\" ++ symbol)

open Text Pattern in
/-- A whole line with one import. -/
def singleImport : Pattern :=
  let word := one isWord
  let space := many1 (one isBlank)
  inOrder [Pattern.text "use", space, maybe (oneOf [seq (Pattern.text "function") space, seq (Pattern.text "const") space]),
    maybe (Pattern.text "\\"),
    keep "imported" (seq (one fun c => isWord c && !isDigit c) (many (one fun c => isWord c || c == '\\'))),
    maybe (inOrder [space, Pattern.text "as", space, keep "alias" (many1 word)]), gap, Pattern.text ";", gap]

/-- The full name and the alias of the import that a line holds. -/
def importOn? (line : String) : Option (String × Option String) :=
  (singleImport.run (Text.Spot.start line.toList) fun s => if s.rest.isEmpty then some s else none).map fun s =>
    ((s.part? "imported").getD "", s.part? "alias")

/-- Is there nothing on the line? -/
def isBlankLine (line : String) : Bool := line.toList.all Text.isBlank

/-- The lines after a removed one, without the blank ones at their start if a blank one stands before them. -/
def closeGap (before after : List String) : List String :=
  match before.getLast? with
  | some line => if isBlankLine line then after.dropWhile isBlankLine else after
  | none => after

/-- The lines without the one after `before`. -/
def withoutLine (before after : List String) : List String := before ++ closeGap before after

/-- What becomes of an issue on a line, by the lines before and after it. -/
def repairLine (i : Issue) (before : List String) (line : String) (after : List String) : Outcome :=
  let number := toString i.line
  let target := Text.strip line
  if !(Text.startsWith target "use " || Text.startsWith target "use\t") then
    .failed i ("Line " ++ number ++ " is not a use statement")
  else
    match importOn? target with
    | none => .skipped i ("Line " ++ number ++ " is not a single-import use statement")
    | some (imported, alias_) =>
      if namesImport imported alias_ i.symbol then
        .fixed i (Text.join "\n" (withoutLine before after))
          ("Removed use statement '" ++ i.symbol ++ "' from line " ++ number) [i.line]
      else .skipped i "Use statement does not match symbol"

/-- What becomes of an issue in a text. -/
def repairImport (i : Issue) (text : String) : Outcome :=
  let lines := Text.splitAt '\n' text
  let index := (i.line - 1).toNat
  match (if i.line < 1 then none else lines[index]?) with
  | some line => repairLine i (lines.take index) line (lines.drop (index + 1))
  | none => .failed i ("Line " ++ toString i.line ++ " does not exist")

end DeadCode.Fix
