import DeadCode.Console.Table
import DeadCode.Report.Basic

/-!
# Reports as text

One table for each rule, the files that were left out, and a summary.
-/

namespace DeadCode.Report
set_option autoImplicit false

open Console

/-- The table of a rule. -/
def ruleTable (r : Report) (g : String × List Issue) : Table where
  title := g.1 ++ " (" ++ toString g.2.length ++ ")"
  titleJustify := .left
  columns := [⟨"Severity", .left⟩, ⟨"Symbol", .left⟩, ⟨"File", .left⟩, ⟨"Line", .right⟩]
  rows := g.2.map fun i => [i.severity.label, i.symbol, r.pathOf i, shownLine i.line]

/-- The line of a file that was left out. -/
def failureLine (r : Report) (f : Failure) : String :=
  let line := if f.line = 0 then "" else ":" ++ toString f.line
  "  " ++ f.kind.label ++ " " ++ shownPath r.root f.file ++ line ++ " - " ++ f.message

/-- The lines about files that were left out, each with its reason only if more is asked for. -/
def failureLines (r : Report) (verbose : Bool) : List String :=
  if r.failures.isEmpty then [] else
  ("Skipped " ++ toString r.failures.length ++ " file(s) that could not be analysed") ::
    (if verbose then r.failures.map r.failureLine else [])

/-- The lines of the summary. -/
def summaryLines (r : Report) : List String :=
  let counts := Text.join ", " ((inKeyOrder r.bySeverity).map fun p => toString p.2 ++ " " ++ p.1)
  ["\nSummary:", "  Files analysed: " ++ toString r.files, "  Symbols: " ++ toString r.symbols] ++
    (if r.frameworks.isEmpty then [] else ["  Frameworks: " ++ Text.join ", " r.frameworks]) ++
    [if r.issues.isEmpty then "No dead code found!"
      else "  Issues: " ++ toString r.issues.length ++ " (" ++ counts ++ ")"]

/-- The report as a console of some width shows it. -/
def text (r : Report) (width : Nat) (verbose : Bool) : String :=
  String.join (r.ruleGroups.map fun g => (r.ruleTable g).render) ++
    String.join ((r.failureLines verbose ++ r.summaryLines).map (print width))

end DeadCode.Report
