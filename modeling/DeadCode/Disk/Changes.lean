import DeadCode.Disk

/-!
# Changes of a disk

What has to be done to a disk so that it becomes another one.
-/

namespace DeadCode
set_option autoImplicit false

/-- A change of one path. -/
inductive Change where
  | write (path : Path) (bytes : List UInt8)
  | makeDirectory (path : Path)
  | remove (path : Path)
  deriving Repr

/-- The change that an entry of the new disk asks for. -/
def Change.for? (old : Disk) (path : Path) (e : Entry) : Option Change :=
  match old.get? path, e with
  | some (.file before _), .file bytes _ => if before == bytes then none else some (.write path bytes)
  | _, .file bytes _ => some (.write path bytes)
  | some .directory, .directory => none
  | _, .directory => some (.makeDirectory path)

/-- The changes from a disk to another one: first what is new, then what is gone. -/
def Disk.changesTo (old new : Disk) : List Change :=
  (new.entries.filterMap fun e => Change.for? old ⟨.root, e.1⟩ e.2) ++
    (old.entries.filter fun e => !new.holds ⟨.root, e.1⟩).map fun e => .remove ⟨.root, e.1⟩

end DeadCode
