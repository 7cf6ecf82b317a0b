import DeadCode.Markup.Xml
import DeadCode.Report.Basic
import DeadCode.Version

/-!
# Reports as elements

Two documents: issues grouped by file below the counts of the report, and a test suite for each rule in which every issue
is a test that does not pass.
-/

namespace DeadCode.Report
set_option autoImplicit false

open Markup

/-- The element of an issue. -/
def issueElement (i : Issue) : Element :=
  .around "issue" [("kind", i.rule), ("severity", i.severity.label), ("line", toString i.line)] [
    .leaf "symbol" [("name", i.symbol), ("kind", i.symbolKind.getD "")] "", .leaf "message" [] i.message]

/-- The counts of a report. -/
def summaryElement (r : Report) : Element :=
  .around "summary" [] [
    .leaf "files-analyzed" [] (toString r.files), .leaf "symbols" [] (toString r.symbols),
    .leaf "issues" [] (toString r.issues.length), .leaf "failures" [] (toString r.failures.length),
    .around "by-severity" [] ((inKeyOrder r.bySeverity).map fun p => .leaf p.1 [] (toString p.2)),
    .around "by-rule" [] ((inKeyOrder r.byRule).map fun p =>
      .leaf "rule" [("name", p.1), ("count", toString p.2)] "")]

/-- The report grouped by file. -/
def fileDocument (r : Report) : Element :=
  .around programName [("version", version)] [
    r.summaryElement,
    .around "issues" [] ((groupBy r.pathOf r.issues).map fun g => .around "file" [("path", g.1)] (g.2.map issueElement)),
    .around "failures" [] (r.failures.map fun f =>
      .leaf "failure" [("kind", f.kind.label), ("file", shownPath r.root f.file), ("line", toString f.line)] f.message)]

/-- Issues that count as errors of a suite. -/
def errorsOf (is : List Issue) : List Issue := is.filter (·.severity == .error)

/-- The counts of a suite. -/
def suiteCounts (is : List Issue) : List (String × String) := [
  ("tests", toString is.length), ("failures", toString (is.length - (errorsOf is).length)),
  ("errors", toString (errorsOf is).length), ("time", "0")]

/-- The test of an issue. -/
def testCase (r : Report) (i : Issue) : Element :=
  let path := r.pathOf i
  let line := if i.line = 0 then [] else [("line", toString i.line)]
  let place := if i.line = 0 then path else path ++ ":" ++ toString i.line
  .around "testcase" ([("name", i.symbol), ("classname", path), ("time", "0")] ++ line) [
    .leaf (if i.severity = .error then "error" else "failure") [("type", i.rule), ("message", i.message)] place]

/-- The report as test suites. -/
def suiteDocument (r : Report) : Element :=
  .around "testsuites" (("name", programName) :: suiteCounts r.issues) (r.ruleGroups.map fun g =>
    .around "testsuite" (("name", g.1) :: suiteCounts g.2) (g.2.map r.testCase))

end DeadCode.Report
