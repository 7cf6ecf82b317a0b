import DeadCode.Config.Basic
import DeadCode.Report.Format

/-!
# Settings of a configuration

What a configuration sets, each in the shape in which it is used.
-/

namespace DeadCode.Config
set_option autoImplicit false

/-- The value set under a key. -/
def value (c : Config) (key : String) : Json := (Assoc.get? c.data key).getD .null

/-- The value set inside an object. -/
def member (c : Config) (key field : String) (default : Json) : Except ConfigError Json :=
  match c.value key with
  | .obj ms => .ok ((Assoc.get? ms field).getD default)
  | _ => .error .noMembers

/-- The elements of a value. -/
def elementsOf (v : Json) : Except ConfigError (List Json) :=
  match v.elements? with
  | some xs => .ok xs
  | none => .error .wrongShape

/-- The texts among the elements. -/
def texts (xs : List Json) : List String := xs.filterMap Json.str?

/-- The language version. -/
def languageVersion (c : Config) : String := (c.value "php_version").display

/-- The encoding of source files. -/
def encoding (c : Config) : String := (c.value "encoding").display

/-- The framework of the project. -/
def framework (c : Config) : String := (c.value "framework").display

/-- Frameworks that are taken as used. -/
def frameworks (c : Config) : Except ConfigError (List Json) := elementsOf (c.value "plugins")

/-- Entry points of the project. -/
def entryPoints (c : Config) : Except ConfigError (List Json) := elementsOf (c.value "entry_points")

/-- A list of what is left out. -/
def ignored (c : Config) (field : String) : Except ConfigError (List Json) := do
  elementsOf (← c.member "ignore" field (.arr []))

/-- Patterns of the paths that are left out. -/
def ignorePaths (c : Config) : Except ConfigError (List Json) := c.ignored "paths"

/-- Patterns of the names that are left out. -/
def ignorePatterns (c : Config) : Except ConfigError (List Json) :=
  return (← c.ignored "patterns") ++ (← c.ignored "symbols")

/-- Patterns of the packages that are left out. -/
def ignoreDependencies (c : Config) : Except ConfigError (List Json) := c.ignored "dependencies"

/-- The format of the report. -/
def format (c : Config) : Except ConfigError Format := do
  let name := Text.lower (← c.member "output" "format" (.str "text")).display
  match Format.ofLabel? name with
  | some f => return f
  | none => throw (.format name)

/-- Is the cache used? -/
def cacheEnabled (c : Config) : Except ConfigError Bool :=
  return (← c.member "cache" "enabled" (.bool true)).isSet

/-- The cache directory as it is set. -/
def cachePath (c : Config) : Except ConfigError Path := do
  match ← c.member "cache" "directory" (.str cacheDirectory) with
  | .str s => return Path.ofString s
  | _ => throw .wrongShape

/-- The cache directory, seen from the root. -/
def cacheDir (c : Config) : Except ConfigError Path := return c.root.join (← c.cachePath)

/-- Does a finding of the highest severity make the run fail? -/
def strict (c : Config) : Bool := (c.value "strict").isSet

/-- The number of workers, at least one. -/
def workers (c : Config) : Except ConfigError Int :=
  match (c.value "parallel").toWhole with
  | .ok n => .ok (max 1 n)
  | .error e => .error (.number e)

/-- Directories that are passed over, the one of the cache among them. -/
def excluded (c : Config) : Except ConfigError (List Json) := do
  let dirs ← elementsOf (c.value "exclude_dirs")
  let cache := Json.str (← c.cachePath).name
  return if dirs.contains cache then dirs else dirs ++ [cache]

/-- The severity of a rule, or nothing if it is off. -/
def severity (c : Config) (rule : String) : Except ConfigError (Option Severity) :=
  match c.value "rules" with
  | .obj ms =>
    match Assoc.get? ms rule with
    | none => .ok ((Rule.ofLabel? rule).map Rule.severity)
    | some .null => .ok none
    | some (.bool false) => .ok none
    | some v =>
      let word := Text.lower v.display
      if word == "off" then .ok none else
      match Severity.ofLabel? word with
      | some s => .ok (some s)
      | none => .error (.severity word rule)
  | _ => .error .noMembers

/-- The names of all rules, those that are set among them. -/
def ruleNames (c : Config) : Except ConfigError (List String) := do
  let names ← elementsOf (c.value "rules")
  if !names.all Json.isKey then throw .wrongShape
  return (Rule.all.map Rule.label ++ texts names).eraseDups

/-- The settings of the analysis. -/
def settings (c : Config) : Except ConfigError Settings := do
  let rules ← (← c.ruleNames).mapM fun r => return (r, ← c.severity r)
  return {
    rules, ignorePatterns := texts (← c.ignorePatterns), ignorePaths := texts (← c.ignorePaths)
    entryPoints := texts (← c.entryPoints), ignoreDependencies := texts (← c.ignoreDependencies)
    checkPublicMethods := (c.value "check_public_methods").isSet
    checkPublicConstants := (c.value "check_public_constants").isSet }

end DeadCode.Config
