import DeadCode.Assoc
import DeadCode.Decimal
import DeadCode.Path
import DeadCode.Text.Quoted

/-!
# Files and directories

A disk as a value: what stands at each path from the root. Reading and writing give the errors that a file system gives.
-/

namespace DeadCode
set_option autoImplicit false

/-- A file with its content and the time of its last change, or a directory. -/
inductive Entry where
  | file (bytes : List UInt8) (modified : Decimal)
  | directory
  deriving Inhabited, Repr

/-- Why a path cannot be used. -/
inductive DiskError where
  | notFound
  | fileExists
  | notADirectory
  | isADirectory
  deriving DecidableEq, Repr

namespace DiskError

/-- The number of the error. -/
def number : DiskError → Nat
  | notFound => 2
  | fileExists => 17
  | notADirectory => 20
  | isADirectory => 21

/-- The short wording of the error. -/
def reason : DiskError → String
  | notFound => "No such file or directory"
  | fileExists => "File exists"
  | notADirectory => "Not a directory"
  | isADirectory => "Is a directory"

/-- The wording of the error with the path that it is about. -/
def message (e : DiskError) (path : String) : String :=
  "[Errno " ++ toString e.number ++ "] " ++ e.reason ++ ": " ++ Text.quoted path

end DiskError

/-- A disk: entries by the names from the root down, one at each path. -/
structure Disk where
  entries : List (List String × Entry) := []
  distinct : (Assoc.keys entries).Nodup := by decide
  deriving Inhabited

namespace Disk

/-- What stands at a path. The root is always a directory. -/
def get? (d : Disk) (p : Path) : Option Entry :=
  if p.names.isEmpty then some .directory else Assoc.get? d.entries p.names

/-- Is there anything at the path? -/
def holds (d : Disk) (p : Path) : Bool := (d.get? p).isSome

/-- Is there a file at the path? -/
def isFile (d : Disk) (p : Path) : Bool :=
  match d.get? p with
  | some (.file _ _) => true
  | _ => false

/-- Is there a directory at the path? -/
def isDirectory (d : Disk) (p : Path) : Bool :=
  match d.get? p with
  | some .directory => true
  | _ => false

/-- Why there is nothing at a path: a file stands in its way, or nothing does. -/
def absence (d : Disk) (p : Path) : DiskError :=
  if (List.range p.names.length).any fun n => d.isFile { p with names := p.names.take n } then .notADirectory
  else .notFound

/-- The content of a file. -/
def read (d : Disk) (p : Path) : Except DiskError (List UInt8) :=
  match d.get? p with
  | some (.file bytes _) => .ok bytes
  | some .directory => .error .isADirectory
  | none => .error (d.absence p)

/-- The disk with an entry set. -/
def put (d : Disk) (p : Path) (e : Entry) : Disk :=
  ⟨Assoc.set d.entries p.names e, Assoc.nodup_keys_set e d.distinct⟩

/-- The disk without what stands at a path. -/
def drop (d : Disk) (p : Path) : Disk := ⟨Assoc.erase d.entries p.names, Assoc.nodup_keys_erase p.names d.distinct⟩

/-- Writes a file into a directory that is there. -/
def write (d : Disk) (p : Path) (bytes : List UInt8) (time : Decimal) : Except DiskError Disk :=
  if d.isDirectory p then .error .isADirectory
  else if d.isDirectory p.parent then .ok (d.put p (.file bytes time))
  else .error (d.absence p)

/-- The disk with the directories on the way down, given those passed already. -/
def makeFrom (d : Disk) (before : List String) : List String → Except DiskError Disk
  | [] => .ok d
  | n :: ns =>
    let p : Path := ⟨.root, before ++ [n]⟩
    match d.get? p with
    | some .directory => makeFrom d p.names ns
    | some (.file _ _) => .error (if ns.isEmpty then .fileExists else .notADirectory)
    | none => makeFrom (d.put p .directory) p.names ns

/-- Makes a directory and those above it. -/
def makeDirectories (d : Disk) (p : Path) : Except DiskError Disk := d.makeFrom [] p.names

/-- Removes a file. -/
def remove (d : Disk) (p : Path) : Except DiskError Disk :=
  match d.get? p with
  | some (.file _ _) => .ok (d.drop p)
  | some .directory => .error .isADirectory
  | none => .error (d.absence p)

/-- Moves a file over another one. -/
def rename (d : Disk) (p q : Path) : Except DiskError Disk :=
  match d.get? p with
  | some e =>
    if d.isDirectory q then .error .isADirectory
    else .ok ((d.drop p).put q e)
  | none => .error (d.absence p)

/-- Lexicographic order of lists of names. -/
def namesBefore : List String → List String → Bool
  | [], _ => true
  | _ :: _, [] => false
  | a :: as, b :: bs => if a == b then namesBefore as bs else decide (a < b)

/-- Everything below a directory, as names from there, in order. -/
def below (d : Disk) (p : Path) : List (List String) :=
  let inside := d.entries.filterMap fun e =>
    if p.names.isPrefixOf e.1 && p.names.length < e.1.length then some (e.1.drop p.names.length) else none
  inside.mergeSort namesBefore

end Disk
end DeadCode
