import DeadCode.Assoc
import DeadCode.Record.Kind

/-!
# Rules and settings

The rules of the analysis with their default severities, and the settings of a run.
-/

namespace DeadCode
set_option autoImplicit false

/-- A rule. -/
inductive Rule where
  | classes
  | interfaces
  | traits
  | functions
  | methods
  | properties
  | constants
  | imports
  | files
  | dependencies
  deriving DecidableEq, Inhabited, Repr

namespace Rule

/-- All rules, in the order in which they run. -/
def all : List Rule :=
  [classes, interfaces, traits, functions, methods, properties, constants, imports, files, dependencies]

/-- The written name of a rule. -/
def label : Rule → String
  | classes => "unused-classes"
  | interfaces => "unused-interfaces"
  | traits => "unused-traits"
  | functions => "unused-functions"
  | methods => "unused-methods"
  | properties => "unused-properties"
  | constants => "unused-constants"
  | imports => "unused-use-statements"
  | files => "unused-files"
  | dependencies => "unused-dependencies"

/-- The rule with this written name. -/
def ofLabel? (s : String) : Option Rule := all.find? (·.label == s)

theorem mem_all (rule : Rule) : rule ∈ all := by
  cases rule <;> simp [all]

theorem ofLabel?_label (rule : Rule) : ofLabel? rule.label = some rule := by
  cases rule <;> decide

theorem label_of_ofLabel? {s : String} {rule : Rule} (h : ofLabel? s = some rule) : rule.label = s := by
  have found := List.find?_some h
  exact eq_of_beq found

/-- The severity of a rule that is not configured. -/
def severity : Rule → Severity
  | classes => .error
  | traits => .error
  | functions => .error
  | _ => .warning

end Rule

/-- The settings of an analysis: severities by rule name, where nothing stands for a rule that is off, patterns of what is
left out, and entry points. -/
structure Settings where
  rules : List (String × Option Severity) := Rule.all.map fun r => (r.label, some r.severity)
  ignorePatterns : List String := []
  ignorePaths : List String := []
  entryPoints : List String := []
  ignoreDependencies : List String := []
  checkPublicMethods : Bool := false
  checkPublicConstants : Bool := false
  deriving Inhabited, Repr

/-- The severity of a rule by name, or nothing if the rule is off or unknown. -/
def Settings.severity (s : Settings) (rule : String) : Option Severity :=
  match Assoc.get? s.rules rule with
  | some severity => severity
  | none => (Rule.ofLabel? rule).map Rule.severity

end DeadCode
