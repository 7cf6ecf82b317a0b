import DeadCode.Disk
import DeadCode.Encoding.Detect
import DeadCode.Fix.Imports
import DeadCode.Log

/-!
# Repairing files

A session gives each issue to the first fixer that takes it, and keeps the changed texts. The issues of a file are taken
from its end to its start, so that a repair never moves a line that a later one is about. Nothing is written before
`apply`, and nothing at all in a dry run.
-/

namespace DeadCode.Fix
set_option autoImplicit false

/-- Why an issue could not be taken at all. -/
inductive FixError where
  | notImplemented
  | codec (e : CodecError)
  | encoding (kind : String)
  | nullInPath
  deriving DecidableEq, Repr

/-- The wording of the error. -/
def FixError.message : FixError → String
  | .notImplemented => "An issue cannot be repaired"
  | .codec e => e.message
  | .encoding kind => kind
  | .nullInPath => "embedded null byte"

/-- Something that repairs issues. -/
structure Fixer where
  name : String := "fixer"
  priority : Int := 0
  takes : Issue → Bool := fun _ => false
  repair : Issue → String → Except FixError Outcome := fun _ _ => .error .notImplemented

/-- The removal of unused imports. -/
def importFixer : Fixer where
  name := "use-statement"
  priority := 100
  takes := isImportIssue
  repair := fun i text => .ok (repairImport i text)

/-- The text of a file as it stands after the repairs so far. -/
structure SourceFile where
  text : String
  codec : Charset
  modified : Bool := false
  deriving Repr

/-- The state of a session. `codecs` are the encodings of the platform. -/
structure Session where
  dryRun : Bool := true
  codecs : Registry := {}
  known : List (String × Fixer) := []
  files : List (String × SourceFile) := []
  written : List String := []
  outcomes : List Outcome := []

/-- The numbers of a session: its outcomes, those of each status, and the files whose text has changed. -/
structure Summary where
  total : Nat
  fixed : Nat
  failed : Nat
  skipped : Nat
  filesModified : Nat
  deriving DecidableEq, Repr

namespace Session

/-- The session with one more fixer; one of the same name is replaced. -/
def register (s : Session) (f : Fixer) : Session := { s with known := Assoc.set s.known f.name f }

/-- The fixers, those of higher priority first. -/
def fixers (s : Session) : List Fixer := (s.known.map (·.2)).mergeSort fun f g => decide (g.priority ≤ f.priority)

/-- The fixer for an issue. -/
def fixerFor? (s : Session) (i : Issue) : Option Fixer := s.fixers.find? (·.takes i)

/-- A file as the disk has it; nothing if it cannot be read as text. -/
def fetch (g : Registry) (d : Disk) (here : Path) (file : String) : Except FixError (Option SourceFile) :=
  if file.toList.contains '\x00' then .error .nullInPath else
  match d.read (here.resolve (Path.ofString file)) with
  | .error _ => .ok none
  | .ok bytes =>
    match Encoding.detectOrBytes g bytes with
    | .error e => .error (.codec e)
    | .ok found =>
      match found.codec.decode g bytes with
      | .error (.fault _) => .ok none
      | .error (.breakdown kind) => .error (.encoding kind)
      | .ok text => .ok (some { text, codec := found.codec })

/-- The file of an issue, read on first use; nothing if it cannot be read as text. -/
def load (s : Session) (d : Disk) (here : Path) (file : String) : Except FixError (Session × Option SourceFile) :=
  match Assoc.get? s.files file with
  | some source => .ok (s, some source)
  | none =>
    match fetch s.codecs d here file with
    | .error e => .error e
    | .ok none => .ok (s, none)
    | .ok (some source) => .ok ({ s with files := Assoc.set s.files file source }, some source)

/-- The session after an outcome: a change takes the place of the text of the file. -/
def record (s : Session) (o : Outcome) (source : Option SourceFile) : Session :=
  let files := match o.isChange, o.newText, source with
    | true, some text, some src => Assoc.set s.files o.issue.file { src with text, modified := true }
    | _, _, _ => s.files
  { s with files, outcomes := s.outcomes ++ [o] }

/-- Takes one issue. -/
def fixIssue (s : Session) (d : Disk) (here : Path) (i : Issue) : Session × Except FixError Outcome :=
  let settle := fun (s : Session) (o : Outcome) (source : Option SourceFile) =>
    ((s.record o source, .ok o) : Session × Except FixError Outcome)
  if i.file.isEmpty then settle s (.failed i "Issue has no file path") none else
  match s.fixerFor? i with
  | none => settle s (.skipped i "No fixer available for this issue type") none
  | some fixer =>
    match s.load d here i.file with
    | .error e => (s, .error e)
    | .ok (s, none) => settle s (.failed i ("Could not read file: " ++ i.file)) none
    | .ok (s, some source) =>
      match fixer.repair i source.text with
      | .error e => (s, .error e)
      | .ok o => settle s o (some source)

/-- The order in a file: from its end to its start, then by rule and symbol. -/
def before (a b : Issue) : Bool :=
  if a.line = b.line then
    if a.rule = b.rule then decide (a.symbol ≤ b.symbol) else decide (a.rule < b.rule)
  else decide (b.line < a.line)

/-- The order in which issues are taken: those without a file, then file by file. -/
def inOrder (is : List Issue) : List Issue :=
  let files := Text.sortUnique ((is.map (·.file)).filter fun f => !f.isEmpty)
  is.filter (·.file.isEmpty) ++ files.flatMap fun f => (is.filter (·.file == f)).mergeSort before

/-- Takes issues one after the other, up to one that cannot be taken. -/
def fixAll (s : Session) (d : Disk) (here : Path) : List Issue → Session × Except FixError (List Outcome)
  | [] => (s, .ok [])
  | i :: is =>
    match s.fixIssue d here i with
    | (s, .error e) => (s, .error e)
    | (s, .ok o) =>
      let (s, rest) := fixAll s d here is
      (s, rest.map (o :: ·))

/-- Takes a batch of issues in their order. -/
def fixIssues (s : Session) (d : Disk) (here : Path) (is : List Issue) : Session × Except FixError (List Outcome) :=
  s.fixAll d here (inOrder is)

/-- The changed text of a file. -/
def modifiedText (s : Session) (file : String) : Option String :=
  match Assoc.get? s.files file with
  | some source => if source.modified then some source.text else none
  | none => none

/-- The files whose text has changed, in order. -/
def modifiedFiles (s : Session) : List String :=
  Text.sortStrings ((s.files.filter fun f => f.2.modified).map (·.1))

/-- What became of a file that was to be written: nothing to tell, or why it was not. -/
abbrev Written := List (String × Except String Unit)

/-- Why a file is not written: a reason that is told, or an error of its encoding that ends the writing. -/
inductive WriteError where
  | told (reason : String)
  | stop (e : FixError)

/-- Writes one file in its encoding. -/
def writeFile (g : Registry) (d : Disk) (here : Path) (now : Decimal) (file : String) (source : SourceFile) :
    Except WriteError Disk :=
  match source.codec.encode g source.text with
  | .error (.lacking message) => .error (.told message)
  | .error (.breakdown kind) => .error (.stop (.encoding kind))
  | .ok bytes =>
    match d.write (here.resolve (Path.ofString file)) bytes now with
    | .error e => .error (.told (e.message (Path.ofString file).text))
    | .ok d => .ok d

/-- Writes files one after the other, up to one whose encoding ends the writing. -/
def writeAll (s : Session) (d : Disk) (here : Path) (now : Decimal) :
    List String → Session × Disk × Written × List LogLine × Option FixError
  | [] => (s, d, [], [], none)
  | file :: files =>
    match (Assoc.get? s.files file).map (writeFile s.codecs d here now file) with
    | none => writeAll s d here now files
    | some (.error (.stop e)) => (s, d, [], [], some e)
    | some (.error (.told reason)) =>
      let (s, d, written, logs, e) := writeAll s d here now files
      (s, d, (file, .error reason) :: written, ⟨.error, "Could not write " ++ file ++ ": " ++ reason⟩ :: logs, e)
    | some (.ok d) =>
      let (s, d, written, logs, e) := writeAll { s with written := file :: s.written } d here now files
      (s, d, (file, .ok ()) :: written, logs, e)

/-- Writes the changed files; in a dry run there is nothing to write. What was written stays so if an encoding ends the
writing. -/
def apply (s : Session) (d : Disk) (here : Path) (now : Decimal) :
    Session × Disk × Written × List LogLine × Option FixError :=
  if s.dryRun then (s, d, [], [], none) else s.writeAll d here now s.modifiedFiles

/-- Issues whose repair has been written. -/
def fixedIssues (s : Session) : List Issue :=
  if s.dryRun then []
  else (s.outcomes.filter fun o => o.status == .fixed && s.written.contains o.issue.file).map (·.issue)

/-- How often a status occurs. -/
def count (s : Session) (status : Status) : Nat := (s.outcomes.filter (·.status == status)).length

/-- The numbers of the session. -/
def summary (s : Session) : Summary where
  total := s.outcomes.length
  fixed := s.count .fixed
  failed := s.count .failed
  skipped := s.count .skipped
  filesModified := s.modifiedFiles.length

/-- The session without texts and outcomes. -/
def clear (s : Session) : Session := { s with files := [], written := [], outcomes := [] }

end Session
end DeadCode.Fix
