import DeadCode.Framework.Hooks

/-!
# Framework rules

What is known of a framework: how a project that uses it is told, which names and files it uses by itself, which of its
files name classes, and how callbacks are registered with it.
-/

namespace DeadCode
set_option autoImplicit false

/-- How callbacks are registered: the files that do it, the functions with the place of the callback, and the registrars
of commands. -/
structure HookRules where
  files : List String := ["**/*.php"]
  functions : Json := .arr []
  commands : List String := []
  deriving Inhabited

/-- The rules of a framework. -/
structure Framework where
  name : String
  description : Option String := some ""
  priority : Int := 0
  detectFiles : List String := []
  detectPackages : List String := []
  detectPrefixes : List String := []
  ignorePatterns : List String := []
  ignorePaths : List String := []
  entryPoints : List String := []
  directories : List String := []
  baseClasses : List String := []
  namespaces : List String := []
  referenceFiles : List String := []
  hooks : Option HookRules := none
  deriving Inhabited

namespace Framework

/-- The texts in a list member of an object. -/
def listOf (j : Json) (key : String) : List String := ((j.get? key).map Json.strings).getD []

/-- An object member of an object. -/
def objectOf (j : Json) (key : String) : Json := (j.get? key).getD (.obj [])

/-- The hook rules of a data object; an empty one has none. -/
def hooksOf (j : Json) : Option HookRules :=
  if !j.isSet then none
  else some {
    files := match j.get? "files" with
      | some v => v.strings
      | none => ["**/*.php"]
    functions := (j.get? "functions").getD (.arr [])
    commands := listOf j "commands" }

/-- The rules of a data object, with the name to take where it has none. -/
def ofJson (fallback : String) (j : Json) : Except WholeError Framework := do
  let priority ← match j.get? "priority" with
    | some v => v.toWhole
    | none => pure 0
  let name := ((j.get? "name").bind Json.str?).getD ""
  let detect := objectOf j "detect"
  let used := objectOf j "framework_used"
  return {
    name := if name.isEmpty then fallback else name
    description := match j.get? "description" with
      | some v => v.str?
      | none => some ""
    priority
    detectFiles := listOf detect "files", detectPackages := listOf detect "packages"
    detectPrefixes := listOf detect "package_prefixes"
    ignorePatterns := listOf j "ignore_patterns", ignorePaths := listOf j "ignore_file_patterns"
    entryPoints := listOf j "entry_point_files"
    directories := listOf used "directories", baseClasses := listOf used "base_classes"
    namespaces := listOf used "namespaces"
    referenceFiles := listOf j "reference_files", hooks := (j.get? "hooks").bind hooksOf }

end Framework
end DeadCode
