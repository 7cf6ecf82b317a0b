import DeadCode.Report.Html
import DeadCode.Report.Lines
import DeadCode.Report.Text
import DeadCode.Report.Xml

/-!
# Formats of reports

The formats by name, and the report in each.
-/

namespace DeadCode
set_option autoImplicit false

/-- A format. -/
inductive Format where
  | text
  | json
  | github
  | csv
  | xml
  | junit
  | html
  deriving DecidableEq, Inhabited, Repr

namespace Format

/-- All formats. -/
def all : List Format := [text, json, github, csv, xml, junit, html]

/-- The name of a format. -/
def label : Format → String
  | text => "text"
  | json => "json"
  | github => "github"
  | csv => "csv"
  | xml => "xml"
  | junit => "junit"
  | html => "html"

/-- The format with this name. -/
def ofLabel? (s : String) : Option Format := all.find? (·.label == s)

end Format

/-- The report in a format; the text form is for a console of some width. -/
def Report.render (r : Report) (width : Nat) (verbose : Bool) : Format → String
  | .text => r.text width verbose
  | .json => r.toJson.indented
  | .github => r.annotations
  | .csv => r.csv
  | .xml => r.fileDocument.document
  | .junit => r.suiteDocument.document
  | .html => r.html

end DeadCode
