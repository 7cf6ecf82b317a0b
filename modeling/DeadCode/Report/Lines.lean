import DeadCode.Json.Writer
import DeadCode.Report.Basic
import DeadCode.Version

/-!
# Reports as data, annotations and records

The report as a data object, as one annotation a line for a workflow, and as comma-separated records.
-/

namespace DeadCode.Report
set_option autoImplicit false

/-- The report as a data object. -/
def toJson (r : Report) : Json := .obj [
  ("version", .str version), ("summary", r.summary), ("issues", .arr (r.issues.map Issue.toJson)),
  ("failures", .arr (r.failures.map Failure.toJson))]

/-- A message on one line. -/
def annotationText (s : String) : String :=
  Text.replace "\n" "%0A" (Text.replace "\r" "%0D" (Text.replace "%" "%25" s))

/-- The level of an annotation. -/
def annotationLevel : Severity → String
  | .error => "error"
  | .warning => "warning"
  | .info => "notice"

/-- The annotation of an issue. -/
def annotationLine (r : Report) (i : Issue) : String :=
  let line := if i.line = 0 then "" else ",line=" ++ toString i.line
  "::" ++ annotationLevel i.severity ++ " file=" ++ r.pathOf i ++ line ++ ",title=" ++ i.rule ++ "::" ++
    annotationText i.message

/-- One annotation a line. -/
def annotations (r : Report) : String := Text.join "\n" (r.issues.map r.annotationLine)

/-- Does a field need quotes? Releases of the writer differ in what else they quote, such as a carriage return: `also` says for
which characters the one at hand does. -/
def needsQuotes (also : Char → Bool) (s : String) : Bool := s.toList.any fun c => c == ',' || c == '"' || c == '\n' || also c

/-- A field of a record. A quote inside quotes is written twice. -/
def csvField (also : Char → Bool) (s : String) : String :=
  if needsQuotes also s then "\"" ++ Text.replace "\"" "\"\"" s ++ "\"" else s

/-- A record with its line end. -/
def csvRecord (also : Char → Bool) (fields : List String) : String := Text.join "," (fields.map (csvField also)) ++ "\n"

/-- The first record. -/
def csvHeader : List String := ["kind", "severity", "file", "line", "symbol", "symbol_kind", "message"]

/-- The fields of an issue. -/
def csvFields (r : Report) (i : Issue) : List String :=
  [i.rule, i.severity.label, r.pathOf i, shownLine i.line, i.symbol, i.symbolKind.getD "", i.message]

/-- The records of all issues below the header. -/
def csv (r : Report) (also : Char → Bool := fun _ => false) : String :=
  String.join (csvRecord also csvHeader :: r.issues.map fun i => csvRecord also (r.csvFields i))

end DeadCode.Report
