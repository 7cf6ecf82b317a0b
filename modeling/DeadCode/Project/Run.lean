import DeadCode.Analysis.Rules
import DeadCode.Config.Settings
import DeadCode.Framework.Bundled
import DeadCode.Framework.Registry
import DeadCode.Project.Discover
import DeadCode.Project.Gather

/-!
# Running a project

From the files of a project to its report: what the files hold is put into one table, the frameworks of the project add to
it, and the rules judge the result.
-/

namespace DeadCode
set_option autoImplicit false

/-- Why a run stops. -/
inductive RunError where
  | config (e : ConfigError)
  | gather (e : GatherError)
  | text (e : TextError)
  | packages (e : PackageError)
  | dependencies (e : DependencyError)
  | framework (e : FrameworkError)
  | analysis (e : AnalysisError)

/-- What a run changes: the disk, and the lines that it logs. -/
structure World where
  disk : Disk
  logs : List LogLine := []

/-- A step of a run. What it has changed stays changed if it fails. -/
abbrev Work (ε : Type) := ExceptT ε (StateM World)

namespace Work

variable {ε δ α : Type}

/-- Logs lines. -/
def log (lines : List LogLine) : Work ε Unit := modify fun w => { w with logs := w.logs ++ lines }

/-- A step that can only fail. -/
def require (f : δ → ε) : Except δ α → Work ε α
  | .ok a => pure a
  | .error e => throw (f e)

/-- A step that gives a result with log lines. -/
def logged (f : δ → ε) : Except δ (α × List LogLine) → Work ε α
  | .ok (a, lines) => do
    log lines
    return a
  | .error e => throw (f e)

/-- A step that changes the disk. -/
def changing (f : δ → ε) (step : Disk → Disk × List LogLine × Except δ α) : Work ε α := do
  let (disk, lines, result) := step (← get).disk
  modify fun w => { disk, logs := w.logs ++ lines }
  require f result

end Work

/-- A project that is ready to run. `root` is what is analysed, `base` the directory that it is in. -/
structure Project where
  root : Path
  base : Path
  config : Config
  cache : Cache
  frameworks : List Framework
  settings : Settings

/-- The result of a run. `files` are those that were looked at. -/
structure Result where
  report : Report
  cache : Cache.Stats
  files : List String

namespace Project

/-- The directory of a project: a directory itself, or the one that a file is in. -/
def baseOf (d : Disk) (root : Path) : Path := if d.isDirectory root then root else root.parent

/-- Opens a cache. -/
def openCache (m : Moment) (directory : Path) (enabled : Bool) : Work RunError Cache :=
  Work.changing (fun e => .gather (.cache e)) fun d =>
    match Cache.start m.platform directory enabled m.stamp d m.here with
    | (_, d, logs, .error e) => (d, logs, .error e)
    | (cache, d, logs, .ok _) => (d, logs, .ok cache)

/-- Makes a project ready. Settings that are given take the place of those of the configuration. -/
def prepare (m : Moment) (root : Path) (config : Config) (settings : Option Settings) : Work RunError Project := do
  let directory ← Work.require .config config.cacheDir
  let enabled ← Work.require .config config.cacheEnabled
  let cache ← openCache m directory enabled
  let settings ← match settings with
    | some s => pure s
    | none => Work.require .config config.settings
  let base := baseOf (← get).disk root
  return { root, base, config, cache, frameworks := Framework.registerAll Framework.bundled, settings }

/-- Names of the directories that are passed over. -/
def excludedNames (p : Project) : Except ConfigError (List String) := do
  let names ← p.config.excluded
  if !names.all Json.isKey then throw .wrongShape
  return Config.texts names

/-- The source files of the project. -/
def sources (p : Project) : Work RunError (List Path) := do
  let d := (← get).disk
  if d.isFile p.root then return discover d p.root []
  return discover d p.root (← Work.require .config p.excludedNames)

/-- The phases of a run, each with the number of its steps, or zero if that is open. -/
def phases (files : Nat) : List (String × Nat) := [("Collecting symbols", files), ("Analyzing liveness", 0)]

/-- The line that starts a run. -/
def startLine (p : Project) (files : Nat) : LogLine :=
  ⟨.info, "Analysing " ++ toString files ++ " file(s) under " ++ p.root.text⟩

/-- The line about the use of the cache. -/
def cacheLine (s : Cache.Stats) : LogLine :=
  ⟨.info, "Cache: " ++ toString s.hits ++ " hit(s), " ++ toString s.misses ++ " miss(es)"⟩

/-- Gathers the files and writes the manifest of the cache. -/
def gather (p : Project) (m : Moment) (files : List String) : Work RunError (Cache × List (String × Gathered)) := do
  let _ ← Work.require .config p.config.workers
  let (cache, found) ← Work.changing RunError.gather fun d => p.cache.gatherAll m p.config.encoding d files
  Work.changing RunError.gather fun d =>
    let (d, lines) := cache.save d m.here m.now
    (d, lines, .ok ())
  return (cache, found)

/-- The content of the files that could be read, by name. -/
def contents (found : List (String × Gathered)) : List (String × Collected) :=
  found.filterMap fun f => f.2.content?.map (f.1, ·)

/-- The symbols of all files. -/
def tableOf (cs : List (String × Collected)) : SymbolTable :=
  (SymbolTable.ofSymbols (cs.flatMap (·.2.symbols))).freeze

/-- The imports of each file. -/
def importsOf (cs : List (String × Collected)) : List (String × List Import) :=
  cs.foldl (fun is c => Assoc.set is c.1 c.2.imports) []

/-- What the rules judge, with the frameworks that are used. -/
def contextOf (p : Project) (m : Moment) (found : List (String × Gathered)) : Work RunError (Context × List Framework) := do
  let d := (← get).disk
  let cs := contents found
  let composer ← Work.logged .text (Packages.loadComposer d p.base)
  let asked ← Work.require .config p.config.frameworks
  let (active, lines) := Framework.activate p.frameworks d p.base composer p.config.framework (Config.texts asked)
  Work.log lines
  let (entrySymbols, entryFiles) := Framework.splitEntryPoints (Framework.entryPointsOf active)
  let packageFiles ← Work.require .packages (Packages.entryFiles composer)
  let more ← Work.require .framework (active.mapM fun f => f.references d p.base)
  let dependencies ← Work.logged .dependencies (Dependencies.load d p.base composer)
  return ({
    table := Framework.annotateAll active m.here p.base (tableOf cs)
    references := cs.flatMap (·.2.references) ++ more.flatten, imports := importsOf cs
    settings := p.settings, root := some p.base, entrySymbols, entryFiles := entryFiles ++ packageFiles
    frameworkPatterns := active.flatMap (·.ignorePatterns), frameworkPaths := active.flatMap (·.ignorePaths)
    dependencies }, active)

/-- Runs the rules over the files; all rules if none are given. -/
def run (p : Project) (m : Moment) (files : List String) (rules : Option (List String)) : Work RunError Result := do
  Work.log [p.startLine files.length]
  let (cache, found) ← p.gather m files
  let failures := found.filterMap (·.2.failure?)
  let (context, active) ← p.contextOf m found
  let issues ← Work.require .analysis (match rules with
    | some rs => context.analyze rs
    | none => context.analyzeAll)
  let stats ← Work.require (fun e => .gather (.cache e)) (cache.stats (← get).disk m.here)
  Work.log [cacheLine stats]
  return {
    report := {
      issues, failures, files := files.length - failures.length, symbols := context.table.size
      frameworks := active.map (·.name), root := some p.base }
    cache := stats, files }

end Project
end DeadCode
