import DeadCode.Analysis.Rule
import DeadCode.Glob
import DeadCode.Packages.Declared
import DeadCode.Path
import DeadCode.Record.Import
import DeadCode.Record.Reference
import DeadCode.Table

/-!
# What an analysis knows

A `Context` is everything that the rules read: symbols, references, imports by file, settings, and what framework rules
add to them. It never changes during an analysis.
-/

namespace DeadCode
set_option autoImplicit false

/-- The input of an analysis. -/
structure Context where
  table : SymbolTable := .empty
  references : List Reference := []
  imports : List (String × List Import) := []
  settings : Settings := {}
  root : Option Path := none
  frameworkPatterns : List String := []
  frameworkPaths : List String := []
  entrySymbols : List String := []
  entryFiles : List String := []
  dependencies : Option Dependencies := none
  deriving Inhabited

namespace Context

/-- Files that are run directly. -/
def defaultEntryFiles : List String := [
  "bin/*", "public/index.php", "public/*.php", "index.php", "bootstrap.php", "bootstrap/*.php", "artisan", "console/*",
  "cli/*"]

/-- References of the kinds, kind by kind; those to names computed at run time only if they are asked for. -/
def referencesOf (c : Context) (kinds : List ReferenceKind) (withDynamic : Bool) : List Reference :=
  kinds.flatMap fun k => c.references.filter fun r => r.kind == k && (withDynamic || !r.isDynamic)

/-- References in a file. -/
def referencesIn (c : Context) (file : String) : List Reference := c.references.filter (·.file == file)

/-- The imports of a file. -/
def importsOf (c : Context) (file : String) : List Import := (Assoc.get? c.imports file).getD []

/-- Full names by alias for the classes that a file imports. -/
def aliasMap (c : Context) (file : String) : List (String × String) := Import.aliasMap (c.importsOf file)

/-- Classes, in small letters, whose properties are accessed by names computed at run time. -/
def dynamicClasses (c : Context) : List String :=
  ((c.referencesOf [.propertyAccess, .staticProperty] true).filter (·.isDynamic)).filterMap fun r =>
    r.parent?.map Text.lower

/-- The severity of a rule by name, or nothing if the rule is off. -/
def severity (c : Context) (rule : String) : Option Severity := c.settings.severity rule

/-- A path as seen from the project. -/
def relativePath (c : Context) (file : String) : String :=
  let p := Path.ofString file
  match c.root with
  | some root => if p.isAbsolute then (((Path.resolve {} p).relativeTo? root).getD p).text else p.text
  | none => p.text

/-- Patterns of the paths that are left out. -/
def ignorePaths (c : Context) : List String := c.settings.ignorePaths ++ c.frameworkPaths

/-- Patterns of the names that are left out. -/
def ignorePatterns (c : Context) : List String := c.settings.ignorePatterns ++ c.frameworkPatterns

/-- Is the file left out? -/
def isPathIgnored (c : Context) (file : String) : Bool := Glob.matchesPath (c.relativePath file) c.ignorePaths

/-- Is the name left out? -/
def matchesIgnore (c : Context) (fqn : String) : Bool := Glob.matchesSymbol fqn c.ignorePatterns

/-- Is the symbol left out of a rule: by its own comment, by a pattern for it or its owner, or with its file? -/
def isIgnored (c : Context) (s : Symbol) (rule : String) : Bool :=
  (s.ignored && (s.ignoredRule == none || s.ignoredRule == some rule)) || c.matchesIgnore s.fqn ||
    (s.owner?.map c.matchesIgnore).getD false || c.isPathIgnored s.file

/-- Is the name an entry point? -/
def isEntrySymbol (c : Context) (fqn : String) : Bool :=
  c.entrySymbols.any fun e => Text.lower (Text.trimStart (· == '\\') e) == Text.lower fqn

/-- Is the file an entry point? -/
def isEntryFile (c : Context) (file : String) : Bool :=
  Glob.matchesPath (c.relativePath file) (defaultEntryFiles ++ c.settings.entryPoints ++ c.entryFiles)

end Context
end DeadCode
