import DeadCode.Analysis.Rule
import DeadCode.Cli.Arguments
import DeadCode.Report.Format
import DeadCode.Text.Blank
import DeadCode.Text.Number

/-!
# Commands

What a command line asks for.
-/

namespace DeadCode.Cli
set_option autoImplicit false

/-- The options of an analysis. -/
structure AnalyzeOptions where
  path : String := "."
  config : Option String := none
  format : Option Format := none
  output : Option String := none
  only : List String := []
  exclude : List String := []
  least : Option Severity := none
  strict : Bool := false
  fix : Bool := false
  dryRun : Bool := false
  languageVersion : Option String := none
  encoding : Option String := none
  noCache : Bool := false
  workers : Option Int := none
  framework : Option String := none
  verbose : Bool := false
  deriving Inhabited, Repr

/-- A command. -/
inductive Command where
  | analyze (options : AnalyzeOptions)
  | version
  | clearCache (path : String) (config : Option String)
  | cacheStats (path : String) (config : Option String)
  | help
  deriving Inhabited, Repr

namespace Command

/-- The path that a command is about. -/
def path? : Command → Option String
  | analyze o => some o.path
  | clearCache path _ => some path
  | cacheStats path _ => some path
  | _ => none

/-- The configuration file that is named. -/
def config? : Command → Option String
  | analyze o => o.config
  | clearCache _ config => config
  | cacheStats _ config => config
  | _ => none

/-- The files besides those of the project that are read or written. -/
def files (c : Command) : List String :=
  c.config?.toList ++ match c with
    | analyze o => o.output.toList
    | _ => []

/-- Is more to be told? -/
def isVerbose : Command → Bool
  | analyze o => o.verbose
  | _ => false

end Command

/-- The names in a list with commas. -/
def namesIn (s : String) : List String :=
  ((Text.splitAt ',' s).map Text.strip).filter fun n => !n.isEmpty

/-- The form of the option that asks for help. -/
def helpForm : OptionForm := { name := "help" }

/-- The form of the option that names a configuration file. -/
def configForm : OptionForm := { name := "config", letter := some 'c', takesValue := true }

/-- The options of an analysis by their forms. -/
def analyzeForms : List OptionForm := [
  configForm, { name := "format", letter := some 'f', takesValue := true },
  { name := "output", letter := some 'o', takesValue := true }, { name := "only", takesValue := true },
  { name := "exclude", takesValue := true }, { name := "min-severity", takesValue := true }, { name := "strict" },
  { name := "fix" }, { name := "dry-run" }, { name := "php-version", takesValue := true },
  { name := "encoding", letter := some 'e', takesValue := true }, { name := "no-cache" },
  { name := "parallel", letter := some 'j', takesValue := true }, { name := "framework", takesValue := true },
  { name := "verbose", letter := some 'v' }, helpForm]

namespace Arguments

/-- The value of an option in the shape in which it is used. -/
def valueAs {α : Type} (a : Arguments) (name : String) (read : String → Option α) : Except UsageError (Option α) :=
  match a.value? name with
  | none => .ok none
  | some v =>
    match read v with
    | some x => .ok (some x)
    | none => .error (.badValue name v)

/-- The names of rules in an option. -/
def rules (a : Arguments) (name : String) : Except UsageError (List String) :=
  let names := ((a.value? name).map namesIn).getD []
  let unknown := names.filter fun n => (Rule.ofLabel? n).isNone
  if unknown.isEmpty then .ok names else .error (.unknownRules unknown)

/-- The path, which is the only word. -/
def path (a : Arguments) : Except UsageError String :=
  match a.words with
  | [] => .ok "."
  | [p] => .ok p
  | _ :: extra => .error (.extraWords extra)

end Arguments

/-- A number of workers. -/
def workers? (s : String) : Option Int := (Text.wholeNumber? s).filter (1 ≤ ·)

/-- Reads the words of an analysis. -/
def readAnalyze (ws : List String) : Except UsageError Command := do
  let a ← Arguments.read analyzeForms true ws
  if a.has "help" then return .help
  return .analyze {
    config := a.value? "config", format := ← a.valueAs "format" Format.ofLabel?, output := a.value? "output"
    only := ← a.rules "only", exclude := ← a.rules "exclude"
    least := ← a.valueAs "min-severity" Severity.ofLabel?, strict := a.has "strict", fix := a.has "fix"
    dryRun := a.has "dry-run", languageVersion := a.value? "php-version", encoding := a.value? "encoding"
    noCache := a.has "no-cache", workers := ← a.valueAs "parallel" workers?, framework := a.value? "framework"
    verbose := a.has "verbose", path := ← a.path }

/-- Reads the words of a command on the cache. -/
def readOnCache (make : String → Option String → Command) (ws : List String) : Except UsageError Command := do
  let a ← Arguments.read [configForm, helpForm] true ws
  if a.has "help" then return .help
  return make (← a.path) (a.value? "config")

/-- Reads the words of a command without arguments. -/
def readVersion (ws : List String) : Except UsageError Command := do
  let a ← Arguments.read [helpForm] true ws
  if a.has "help" then return .help
  if a.words.isEmpty then return .version else throw (.extraWords a.words)

/-- Reads the name of a command and hands on the words after it. -/
def readNamed (commands : List (String × (List String → Except UsageError Command))) (ws : List String) :
    Except UsageError Command := do
  let a ← Arguments.read [helpForm] false ws
  if a.has "help" then return .help
  match a.words with
  | [] => throw .missingCommand
  | name :: rest =>
    match commands.lookup name with
    | some read => read rest
    | none => throw (.unknownCommand name)

/-- The commands on the cache. -/
def cacheCommands : List (String × (List String → Except UsageError Command)) :=
  [("clear", readOnCache .clearCache), ("stats", readOnCache .cacheStats)]

/-- The command of a command line. -/
def Command.read (ws : List String) : Except UsageError Command :=
  readNamed [("analyze", readAnalyze), ("version", readVersion), ("cache", readNamed cacheCommands)] ws

end DeadCode.Cli
