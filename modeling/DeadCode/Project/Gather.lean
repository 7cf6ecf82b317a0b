import DeadCode.Cache
import DeadCode.Collect.References
import DeadCode.Collect.Symbols
import DeadCode.Encoding.Detect
import DeadCode.Record.Issue

/-!
# Gathering

What every file of a project holds: from the cache if the file is unchanged, else by parsing it. A file that cannot be read
is a failure of its own and stops nothing.
-/

namespace DeadCode
set_option autoImplicit false

/-- Where and when a program runs: the directory, the time that new files get and the same as a text, and what it stands
on. -/
structure Moment where
  here : Path
  now : Decimal
  stamp : String
  platform : Platform

/-- What came of a file. -/
inductive Gathered where
  | found (content : Collected)
  | failed (why : Failure)
  deriving Inhabited

/-- Why a file cannot even be called unreadable: a path or a name of an encoding that is none, or an encoding that breaks
off. -/
inductive SourceError where
  | path
  | name
  | encoding (kind : String)
  deriving DecidableEq, Repr

/-- The wording of the error. -/
def SourceError.message : SourceError → String
  | path => "embedded null byte"
  | name => CodecError.nullInName.message
  | encoding kind => kind

/-- Why the gathering stops. Records of the cache that make no sense stop it, whatever else might come of them. -/
inductive GatherError where
  | cache (e : CacheError)
  | source (e : SourceError)
  | record (e : RecordError)

namespace Gathered

/-- What a parsed file holds. -/
def ofTree (file : String) (root : Node) : Collected :=
  { symbols := Collect.symbols file root, references := Collect.references file root, imports := Collect.imports file root }

/-- What the bytes of a file hold. -/
def ofBytes (p : Platform) (encoding file : String) (bytes : List UInt8) : Except SourceError Gathered :=
  match Encoding.textOf p.codecs encoding bytes with
  | .error (.name .nullInName) => .error .name
  | .error (.breakdown kind) => .error (.encoding kind)
  | .error e => .ok (.failed ⟨.encoding, file, 0, e.message⟩)
  | .ok text =>
    match p.parse text with
    | .error e => .ok (.failed ⟨.parse, file, e.line, e.message⟩)
    | .ok root => .ok (.found (ofTree file root))

/-- What a file holds. -/
def ofFile (p : Platform) (encoding : String) (d : Disk) (here : Path) (file : String) : Except SourceError Gathered :=
  if file.toList.contains '\x00' then .error .path else
  match d.read (here.resolve (Path.ofString file)) with
  | .error e => .ok (.failed ⟨.io, file, 0, e.reason⟩)
  | .ok bytes => ofBytes p encoding file bytes

/-- The content of a file that could be read. -/
def content? : Gathered → Option Collected
  | found c => some c
  | failed _ => none

/-- The failure of a file that could not be read. -/
def failure? : Gathered → Option Failure
  | found _ => none
  | failed f => some f

end Gathered

namespace Cache

/-- What a file holds, from the cache or from the file itself, which is then kept. -/
def gather (c : Cache) (m : Moment) (encoding : String) (d : Disk) (file : String) :
    Disk × List LogLine × Except GatherError (Cache × Gathered) :=
  match c.get d m.here file with
  | .error e => (d, [], .error (.cache e))
  | .ok (c, some loaded) =>
    match loaded.content with
    | .error e => (d, [], .error (.record e))
    | .ok content => (d, [], .ok (c, .found content))
  | .ok (c, none) =>
    match Gathered.ofFile m.platform encoding d m.here file with
    | .error e => (d, [], .error (.source e))
    | .ok (.failed f) => (d, [], .ok (c, .failed f))
    | .ok (.found content) =>
      match c.set d m.here m.now file content.toJson with
      | (d, logs, .error e) => (d, logs, .error (.cache e))
      | (d, logs, .ok c) => (d, logs, .ok (c, .found content))

/-- What the files hold, each under its name and in order. -/
def gatherAll (c : Cache) (m : Moment) (encoding : String) (d : Disk) :
    List String → Disk × List LogLine × Except GatherError (Cache × List (String × Gathered))
  | [] => (d, [], .ok (c, []))
  | file :: files =>
    match c.gather m encoding d file with
    | (d, logs, .error e) => (d, logs, .error e)
    | (d, logs, .ok (c, g)) =>
      match c.gatherAll m encoding d files with
      | (d, more, .error e) => (d, logs ++ more, .error e)
      | (d, more, .ok (c, gs)) => (d, logs ++ more, .ok (c, (file, g) :: gs))

end Cache
end DeadCode
