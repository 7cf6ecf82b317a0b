import DeadCode.Analysis.Rule
import DeadCode.Config.EnvFile
import DeadCode.DataFile
import DeadCode.Json.Merge
import DeadCode.Json.Whole
import DeadCode.Text.Case

/-!
# Configuration

Settings come from defaults, from a file in the root of the project or one that is named, and from the environment, later
ones over earlier ones. What is set is kept as data and only read where it is asked for, so a wrong value stops nothing else.
-/

namespace DeadCode
set_option autoImplicit false

/-- Why a configuration cannot be used. The first ones are the fault of whoever wrote it; the others are values of a wrong
shape. -/
inductive ConfigError where
  | missingFile (path : String)
  | malformed (path fault : String) (line : Nat)
  | unreadable (path reason : String)
  | notAnObject (path : String)
  | workers (text : String)
  | format (text : String)
  | severity (text rule : String)
  | wrongShape
  | noMembers
  | number (e : WholeError)
  | notText
  deriving Repr

/-- The wording of the error. -/
def ConfigError.message : ConfigError → String
  | .missingFile path => "Config file not found: " ++ path
  | .malformed path fault line => "Invalid JSON in " ++ path ++ ": " ++ fault ++ " (line " ++ toString line ++ ")"
  | .unreadable path reason => "Cannot read " ++ path ++ ": " ++ reason
  | .notAnObject path => path ++ " must contain a JSON object"
  | .workers text => "PHPJANITOR_PARALLEL must be an integer, got " ++ Text.quoted text
  | .format text => "Unknown output format: " ++ text
  | .severity text rule => "Invalid severity " ++ Text.quoted text ++ " for rule " ++ rule
  | .number e => e.message
  | .wrongShape => "A setting has a wrong shape"
  | .noMembers => "A setting has no members"
  | .notText => "A file of settings is no text"

/-- Is the error of the making of whoever wrote the configuration? -/
def ConfigError.isTold : ConfigError → Bool
  | .wrongShape => false
  | .noMembers => false
  | .number _ => false
  | .notText => false
  | _ => true

/-- A configuration: the root of the project, the file that was read, and what is set. -/
structure Config where
  root : Path
  file : Option Path := none
  data : List (String × Json)
  deriving Inhabited

namespace Config

/-- The name of the configuration file. -/
def fileName : String := "php-janitor.json"

/-- The cache directory that is used unless another is set. -/
def cacheDirectory : String := ".phpjanitor-cache"

/-- What is set without a file. -/
def defaults : List (String × Json) := [
  ("php_version", .str "auto"), ("encoding", .str "auto"), ("entry_points", .arr []),
  ("ignore", .obj [("paths", .arr []), ("patterns", .arr []), ("symbols", .arr []), ("dependencies", .arr [])]),
  ("framework", .str "auto"), ("plugins", .arr []),
  ("rules", .obj (Rule.all.map fun r => (r.label, .str r.severity.label))),
  ("output", .obj [("format", .str "text")]),
  ("cache", .obj [("enabled", .bool true), ("directory", .str cacheDirectory)]),
  ("strict", .bool false), ("parallel", .int 1), ("check_public_methods", .bool false),
  ("check_public_constants", .bool false), ("exclude_dirs", .ofStrings ["vendor", "node_modules", ".git"])]

/-- The variables that set something. -/
def variableNames : List String :=
  ["PHPJANITOR_CACHE_DIR", "PHPJANITOR_NO_CACHE", "PHPJANITOR_PARALLEL", "PHPJANITOR_FORMAT"]

/-- Is a variable set to yes? -/
def isYes (s : String) : Bool := ["1", "true", "yes", "on"].contains (Text.lower (Text.strip s))

/-- The configuration with a value set. -/
def set (c : Config) (key : String) (v : Json) : Config := { c with data := Assoc.set c.data key v }

/-- The configuration with a value set inside an object. -/
def put (c : Config) (key field : String) (v : Json) : Except ConfigError Config :=
  match Assoc.get? c.data key with
  | some (.obj ms) => .ok (c.set key (.obj (Assoc.set ms field v)))
  | _ => .error .wrongShape

/-- A variable that is not empty. -/
def variableOf (env : List (String × String)) (name : String) : Option String :=
  (Assoc.get? env name).bind fun v => if v.isEmpty then none else some v

/-- The configuration with what the environment sets. -/
def withEnvironment (c : Config) (env : List (String × String)) : Except ConfigError Config := do
  let c ← match variableOf env "PHPJANITOR_CACHE_DIR" with
    | some dir => c.put "cache" "directory" (.str dir)
    | none => pure c
  let c ← match variableOf env "PHPJANITOR_NO_CACHE" with
    | some v => if isYes v then c.put "cache" "enabled" (.bool false) else pure c
    | none => pure c
  let c ← match variableOf env "PHPJANITOR_PARALLEL" with
    | some v =>
      match Text.wholeNumber? v with
      | some n => pure (c.set "parallel" (.int n))
      | none => throw (.workers v)
    | none => pure c
  match variableOf env "PHPJANITOR_FORMAT" with
  | some v => c.put "output" "format" (.str v)
  | none => pure c

/-- What a configuration file sets. -/
def readFile (d : Disk) (here path : Path) : Except ConfigError (List (String × Json)) :=
  match d.readJson (here.resolve path) with
  | .ok (.obj ms) => .ok ms
  | .ok _ => .error (.notAnObject path.text)
  | .error (.malformed e) => .error (.malformed path.text e.fault.text e.line)
  | .error (.unreadable e _) => .error (.unreadable path.text (e.message path.text))
  | .error (.undecodable _ _) => .error .notText

/-- The file to read: the one that is named, which has to be there, or the one in the root, if there is one. -/
def fileOf (d : Disk) (here root : Path) (named : Option String) : Except ConfigError (Option Path) :=
  match named with
  | some name =>
    let path := Path.ofString name
    if d.isFile (here.resolve path) then .ok (some path) else .error (.missingFile path.text)
  | none =>
    let path := root.below fileName
    .ok (if d.isFile path then some path else none)

/-- The environment with the variables of the file in the root, if there is one. -/
def environment (d : Disk) (root : Path) (env : List (String × String)) : Except ConfigError (List (String × String)) :=
  let path := root.below ".env"
  if !d.isFile path then .ok env else
  match d.readText path with
  | .ok s => .ok (EnvFile.extend env s)
  | .error (.undecodable _ _) => .error .notText
  | .error _ => .ok env

/-- Names of the variables that the file in the root speaks of. -/
def mentioned (d : Disk) (root : Path) : List String :=
  match d.readText (root.below ".env") with
  | .ok s => EnvFile.mentioned s
  | .error _ => []

/-- The configuration of a project. -/
def load (d : Disk) (here root : Path) (env : List (String × String)) (named : Option String) :
    Except ConfigError Config := do
  let env ← environment d root env
  let file ← fileOf d here root named
  let data ← match file with
    | some path => readFile d here path
    | none => pure []
  withEnvironment { root, file, data := Json.mergeMembers defaults data } env

/-- The configurations that a process loaded to share, the one in use last. -/
structure Shared where
  loaded : List Config := []

/-- The shared configuration and its place among those loaded. It is loaded on the first call and whenever it is asked for
anew. -/
def Shared.get (s : Shared) (load : Except ConfigError Config) (reload : Bool) : Except ConfigError (Shared × Nat × Config) :=
  match s.loaded.getLast?, reload with
  | some c, false => .ok (s, s.loaded.length - 1, c)
  | _, _ => do
    let c ← load
    return (⟨s.loaded ++ [c]⟩, s.loaded.length, c)

end Config
end DeadCode
