import DeadCode.Record.Field
import DeadCode.Record.Kind

/-!
# Issues and failures

An issue is a finding of a rule. Two issues with the same rule, symbol, file and line are the same finding. A failure is
a file that could not be analysed.
-/

namespace DeadCode
set_option autoImplicit false

/-- A finding. -/
structure Issue where
  rule : String
  symbol : String
  file : String
  line : Int
  severity : Severity := .warning
  message : String := ""
  symbolKind : Option String := none
  deriving DecidableEq, Inhabited, Repr

namespace Issue

/-- Are the two the same finding? -/
def same (a b : Issue) : Bool := a.rule == b.rule && a.symbol == b.symbol && a.file == b.file && a.line == b.line

/-- Lexicographic order by file, line, rule and symbol. -/
def before (a b : Issue) : Bool :=
  if a.file = b.file then
    if a.line = b.line then
      if a.rule = b.rule then decide (a.symbol ≤ b.symbol) else decide (a.rule < b.rule)
    else decide (a.line < b.line)
  else decide (a.file < b.file)

/-- The first of each group of same findings that is not among those seen, in their order. -/
def uniqueFrom (seen : List Issue) : List Issue → List Issue
  | [] => []
  | i :: is => if seen.any (·.same i) then uniqueFrom seen is else i :: uniqueFrom (i :: seen) is

/-- The first of each group of same findings, in their order. -/
def unique (is : List Issue) : List Issue := uniqueFrom [] is

/-- The findings, each once, in order of place. -/
def canonical (is : List Issue) : List Issue := (unique is).mergeSort before

/-- The issue as a data object. -/
def toJson (i : Issue) : Json := .obj [
  ("kind", .str i.rule), ("severity", .str i.severity.label), ("symbol", .str i.symbol),
  ("symbol_kind", .ofOption i.symbolKind), ("file", .str i.file), ("line", .int i.line), ("message", .str i.message)]

/-- The issue of a data object. -/
def ofJson (j : Json) : Field.Read Issue := do
  let ms ← Field.members j
  return {
    rule := ← Field.text (← Field.required ms "kind")
    symbol := ← Field.text (← Field.required ms "symbol")
    file := ← Field.withDefault ms "file" "" Field.text
    line := ← Field.withDefault ms "line" 0 Field.integer
    severity := ← Field.withDefault ms "severity" .warning (Field.word .severity Severity.ofLabel?)
    message := ← Field.withDefault ms "message" "" Field.text
    symbolKind := ← Field.withDefault ms "symbol_kind" none Field.optionalText }

end Issue

/-- Why a file was left out. -/
inductive FailureKind where
  | parse
  | encoding
  | io
  deriving DecidableEq, Repr, Inhabited

/-- The written form of a failure kind. -/
def FailureKind.label : FailureKind → String
  | .parse => "parse"
  | .encoding => "encoding"
  | .io => "io"

/-- The failure kind with this written form. -/
def FailureKind.ofLabel? (s : String) : Option FailureKind :=
  [FailureKind.parse, .encoding, .io].find? (·.label == s)

/-- A file that was left out. -/
structure Failure where
  kind : FailureKind
  file : String
  line : Int
  message : String
  deriving DecidableEq, Inhabited, Repr

/-- The failure as a data object. -/
def Failure.toJson (f : Failure) : Json := .obj [
  ("kind", .str f.kind.label), ("file", .str f.file), ("line", .int f.line), ("message", .str f.message)]

end DeadCode
