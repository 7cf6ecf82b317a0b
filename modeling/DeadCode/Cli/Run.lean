import DeadCode.Cli.Command
import DeadCode.Fix.Session
import DeadCode.Project.Run
import DeadCode.Terminal

/-!
# Running a command

What a command shows, what it changes on the disk, and the code with which it ends.
-/

namespace DeadCode.Cli
set_option autoImplicit false

/-- Why a command breaks off without telling anything. -/
inductive CliError where
  | run (e : RunError)
  | fix (e : Fix.FixError)
  | output (e : DiskError)

/-- The wording of the error. -/
def CliError.message : CliError → String
  | .run (.config e) => e.message
  | .run (.gather (.cache _)) => "The cache is damaged"
  | .run (.gather (.source e)) => e.message
  | .run (.gather (.record e)) => e.message
  | .run (.text _) => "A package file is no text"
  | .run (.packages _) => "A package file has a wrong shape"
  | .run (.dependencies _) => "The packages cannot be told"
  | .run (.framework e) => e.message
  | .run (.analysis e) => e.message
  | .fix e => e.message
  | .output e => e.reason

/-- What a command finds when it starts. -/
structure Surroundings where
  moment : Moment
  environment : List (String × String) := []
  terminal : Terminal := {}
  width : Nat := 200

/-- How a command ends: its code and what it shows. -/
structure Ending where
  code : Nat
  shown : String
  deriving DecidableEq, Inhabited, Repr

/-- A step of a command. -/
abbrev Step := Work CliError

namespace Surroundings

/-- A message as the console shows it. -/
def say (s : Surroundings) (message : String) : String := Console.print s.width (s.terminal.shown message)

/-- The end after a message about what is wrong. -/
def refuse (s : Surroundings) (message : String) : Ending := ⟨1, s.say message⟩

/-- A path that is given, from the root of the disk. -/
def locate (s : Surroundings) (path : String) : Path := s.moment.here.resolve (Path.ofString path)

/-- Goes on with the path that is given, if it is there. -/
def withPath (s : Surroundings) (path : String) (go : Path → Step Ending) : Step Ending := do
  let root := s.locate path
  if (← get).disk.holds root then go root
  else return s.refuse ("Error: Path does not exist: " ++ root.text)

/-- Goes on with a part of the configuration. What is wrong with it is told if it is of the user's making. -/
def withSetting {α : Type} (s : Surroundings) (value : Except ConfigError α) (go : α → Step Ending) : Step Ending :=
  match value with
  | .ok a => go a
  | .error e =>
    if e.isTold then return s.refuse ("Configuration error: " ++ e.message)
    else throw (.run (.config e))

/-- The configuration for a path. -/
def configFor (s : Surroundings) (d : Disk) (root : Path) (file : Option String) : Except ConfigError Config :=
  Config.load d s.moment.here (Project.baseOf d root) s.environment file

end Surroundings

/-- A value that is set and not empty. -/
def filled (v : Option String) : Option String := v.filter fun s => !s.isEmpty

/-- The configuration with what the command line sets. -/
def AnalyzeOptions.over (o : AnalyzeOptions) (c : Config) : Except ConfigError Config := do
  let set := fun (c : Config) (key : String) (v : Option Json) => (v.map (c.set key)).getD c
  let c := set c "php_version" ((filled o.languageVersion).map .str)
  let c := set c "encoding" ((filled o.encoding).map .str)
  let c ← if o.noCache then c.put "cache" "enabled" (.bool false) else pure c
  let c := set c "parallel" (o.workers.map .int)
  let c := set c "framework" ((filled o.framework).map .str)
  match o.format with
  | some f => c.put "output" "format" (.str f.label)
  | none => return c

/-- The rules that an analysis runs. -/
def AnalyzeOptions.rules (o : AnalyzeOptions) : List String :=
  (if o.only.isEmpty then Rule.all.map Rule.label else o.only).filter fun r => !o.exclude.contains r

/-- The table about repairs. -/
def fixTable (s : Fix.Session) : Console.Table where
  title := if s.dryRun then "Fixes (dry run)" else "Fixes"
  columns := [⟨"Result", .left⟩, ⟨"Count", .right⟩]
  rows := [
    ["Fixed", toString s.summary.fixed], ["Failed", toString s.summary.failed],
    ["Skipped", toString s.summary.skipped], ["Files modified", toString s.summary.filesModified]]

/-- The table and the lines about files that could not be written. -/
def fixSummary (s : Surroundings) (session : Fix.Session) (written : Fix.Session.Written) : String :=
  (fixTable session).render ++ String.join (written.map fun w =>
    match w.2 with
    | .ok _ => ""
    | .error message => s.say ("Could not write " ++ w.1 ++ ": " ++ message))

/-- Repairs what it can, and gives the issues that remain with the summary of the repairs. -/
def repair (s : Surroundings) (dryRun : Bool) (issues : List Issue) : Step (List Issue × String) := do
  let start : Fix.Session := Fix.Session.register { dryRun, codecs := s.moment.platform.codecs } Fix.importFixer
  let (session, outcomes) := start.fixIssues (← get).disk s.moment.here issues
  let _ ← Work.require .fix outcomes
  let (session, disk, written, lines, stop) := session.apply (← get).disk s.moment.here s.moment.now
  modify fun w => { disk, logs := w.logs ++ lines }
  if let some e := stop then throw (.fix e)
  let fixed := session.fixedIssues
  return (issues.filter fun i => !fixed.any i.same, fixSummary s session written)

/-- What is shown before a report on the console. The lines of the progress display are empty when it is over. -/
def heading (s : Surroundings) (root : Path) : String := s.say ("Analyzing project: " ++ root.text) ++ "\n\n"

/-- The report as it is written to a file or shown as it stands. -/
def plainReport (s : Surroundings) (r : Report) (f : Format) : String :=
  Text.trimEnd (· == '\n') (r.render s.width false f) ++ "\n"

/-- Shows the report, or writes it to a file. A file never holds the form for the console. -/
def deliver (s : Surroundings) (o : AnalyzeOptions) (f : Format) (r : Report) : Step String := do
  match filled o.output with
  | some file =>
    let content := plainReport s r (if f == .text then .json else f)
    let disk ← Work.require .output ((← get).disk.write (s.locate file) (Utf8.encode content) s.moment.now)
    modify fun w => { w with disk }
    return s.say ("Report written to " ++ file)
  | none => return if f == .text then r.text s.width o.verbose else plainReport s r f

/-- The code of an analysis. -/
def codeOf (strict : Bool) (issues : List Issue) : Nat :=
  if strict && issues.any (·.severity == .error) then 1 else 0

/-- Runs an analysis whose project is ready and has files. -/
def analyzeFiles (s : Surroundings) (o : AnalyzeOptions) (f : Format) (p : Project) (files : List Path) : Step Ending := do
  let onConsole := f == .text && o.output.isNone
  let result ← ExceptT.adapt .run (p.run s.moment (files.map Path.text) (some o.rules))
  let issues := Report.keep o.least o.only o.exclude result.report.issues
  let (issues, repairs) ← if o.fix then repair s o.dryRun issues else pure (issues, "")
  let report ← deliver s o f { result.report with issues }
  return {
    code := codeOf (o.strict || p.config.strict) issues
    shown := (if onConsole then heading s p.root else "") ++ (if f == .text then repairs else "") ++ report }

/-- Runs an analysis. -/
def analyze (s : Surroundings) (o : AnalyzeOptions) : Step Ending :=
  s.withPath o.path fun root => do
    s.withSetting (s.configFor (← get).disk root o.config) fun loaded => do
      let config ← Work.require (fun e => .run (.config e)) (o.over loaded)
      s.withSetting config.format fun f =>
        s.withSetting config.settings fun settings => do
          let project ← ExceptT.adapt .run (Project.prepare s.moment root config (some settings))
          match ← ExceptT.adapt .run project.sources with
          | [] => return s.refuse ("Error: No PHP files found in " ++ root.text)
          | files => analyzeFiles s o f project files

/-- Opens the cache of a project. -/
def openCache (s : Surroundings) (config : Config) (enabled : Config → Except ConfigError Bool) : Step Cache := do
  let directory ← Work.require (fun e => .run (.config e)) config.cacheDir
  let enabled ← Work.require (fun e => .run (.config e)) (enabled config)
  ExceptT.adapt .run (Project.openCache s.moment directory enabled)

/-- Clears the cache of a project. -/
def clearCache (s : Surroundings) (path : String) (file : Option String) : Step Ending :=
  s.withPath path fun root => do
    s.withSetting (s.configFor (← get).disk root file) fun config => do
      let cache ← openCache s config fun _ => .ok true
      Work.changing (fun e => .run (.gather (.cache e))) fun d =>
        let (_, d, lines, r) := cache.clear d s.moment.here
        (d, lines, r)
      return ⟨0, s.say ("✓ Cache cleared for " ++ root.text)⟩

/-- The table about the cache. -/
def statsTable (root : Path) (c : Cache.Stats) : Console.Table where
  title := "Cache Statistics: " ++ root.text
  columns := [⟨"Metric", .left⟩, ⟨"Value", .right⟩]
  rows := [
    ["Enabled", if c.enabled then "yes" else "no"], ["Directory", c.directory], ["Files Cached", toString c.files],
    ["Size (bytes)", toString c.size]]

/-- Shows the counts of the cache of a project. -/
def cacheStats (s : Surroundings) (path : String) (file : Option String) : Step Ending :=
  s.withPath path fun root => do
    s.withSetting (s.configFor (← get).disk root file) fun config => do
      let cache ← openCache s config Config.cacheEnabled
      let stats ← Work.require (fun e => .run (.gather (.cache e))) (cache.stats (← get).disk s.moment.here)
      return ⟨0, (statsTable root stats).render⟩

/-- How the program is used. -/
def usage : String :=
  "Usage: " ++ programName ++ " [--help] COMMAND [OPTIONS] [PATH]\n\nCommands:\n  analyze\n  version\n  cache clear\n  cache stats\n"

/-- Runs a command. -/
def Command.run (s : Surroundings) : Command → Step Ending
  | .analyze o => Cli.analyze s o
  | .version => return ⟨0, programName ++ " " ++ DeadCode.version ++ "\n"⟩
  | .clearCache path file => Cli.clearCache s path file
  | .cacheStats path file => Cli.cacheStats s path file
  | .help => return ⟨0, usage⟩

/-- Runs a command line. One that is not understood ends with code two and shows nothing. -/
def run (s : Surroundings) (ws : List String) : Step Ending :=
  match Command.read ws with
  | .ok command => command.run s
  | .error _ => return ⟨2, ""⟩

end DeadCode.Cli
