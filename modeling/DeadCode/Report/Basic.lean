import DeadCode.Path
import DeadCode.Record.Issue

/-!
# Reports

What a run found, with the counts that every format tells.
-/

namespace DeadCode
set_option autoImplicit false

/-- The result of a run. -/
structure Report where
  issues : List Issue := []
  failures : List Failure := []
  files : Int := 0
  symbols : Int := 0
  frameworks : List String := []
  root : Option Path := none
  deriving Inhabited

namespace Report

/-- A file as it is shown: as seen from the root of the project if it lies below it. -/
def shownPath (root : Option Path) (file : String) : String :=
  match root with
  | none => file
  | some root => (((Path.ofString file).relativeTo? root).map Path.text).getD file

/-- The file of an issue as it is shown. -/
def pathOf (r : Report) (i : Issue) : String := shownPath r.root i.file

/-- A line number, or nothing for zero. -/
def shownLine (line : Int) : String := if line = 0 then "" else toString line

/-- How often each key occurs, in the order of first occurrence. -/
def tally (keys : List String) : List (String × Nat) := keys.foldl (fun m k => Assoc.update m k 0 (· + 1)) []

/-- Number of issues by severity. -/
def bySeverity (r : Report) : List (String × Nat) := tally (r.issues.map (·.severity.label))

/-- Number of issues by rule. -/
def byRule (r : Report) : List (String × Nat) := tally (r.issues.map (·.rule))

/-- Pairs in the order of their keys. -/
def inKeyOrder {α : Type} (ps : List (String × α)) : List (String × α) := ps.mergeSort fun p q => decide (p.1 ≤ q.1)

/-- Issues in groups of one key, in the order of the keys. -/
def groupBy (key : Issue → String) (is : List Issue) : List (String × List Issue) :=
  (Text.sortUnique (is.map key)).map fun k => (k, is.filter fun i => key i == k)

/-- Issues by rule. -/
def ruleGroups (r : Report) : List (String × List Issue) := groupBy (·.rule) r.issues

/-- Counts as a data object. -/
def tallyJson (ps : List (String × Nat)) : Json := .obj (ps.map fun p => (p.1, .int p.2))

/-- The counts of a report. -/
def summary (r : Report) : Json := .obj [
  ("files_analyzed", .int r.files), ("symbols", .int r.symbols), ("issues", .int r.issues.length),
  ("failures", .int r.failures.length), ("by_severity", tallyJson r.bySeverity), ("by_rule", tallyJson r.byRule)]

/-- Issues of a severity at least, of some rules only if any are given, and of none of the excluded rules. -/
def keep (least : Option Severity) (only excluded : List String) (is : List Issue) : List Issue :=
  is.filter fun i =>
    (match least with
    | some s => decide (s.rank ≤ i.severity.rank)
    | none => true) && (only.isEmpty || only.contains i.rule) && !excluded.contains i.rule

end Report
end DeadCode
