import DeadCode.DataFile
import DeadCode.Log
import DeadCode.Packages.Declared

/-!
# Package files

The two files in which a project declares and locks its packages. A file that is there and no data is passed over with a
warning; one that is no text stops the run.
-/

namespace DeadCode
set_option autoImplicit false

/-- A file that is no text. -/
structure TextError where
  deriving Repr

namespace Packages

/-- A package file of a project: an empty object if it is absent or unreadable. -/
def load (d : Disk) (root : Path) (name : String) : Except TextError (Json × List LogLine) :=
  let p := root.below name
  if !d.isFile p then .ok (.obj [], []) else
  match d.readJson p with
  | .ok (.obj ms) => .ok (.obj ms, [])
  | .ok _ => .ok (.obj [], [])
  | .error (.undecodable _ _) => .error {}
  | .error e => .ok (.obj [], [⟨.warning, "Ignoring unreadable " ++ name ++ ": " ++ e.message⟩])

/-- The file that declares packages. -/
def loadComposer (d : Disk) (root : Path) : Except TextError (Json × List LogLine) := load d root "composer.json"

/-- The file that locks packages. -/
def loadLock (d : Disk) (root : Path) : Except TextError (Json × List LogLine) := load d root "composer.lock"

/-- Names of required packages, in small letters. -/
def required (composer : Json) : List String :=
  ["require", "require-dev"].flatMap fun key =>
    match composer.get? key with
    | some (.obj ms) => ms.map fun m => Text.lower m.1
    | _ => []

/-- The texts among the elements of a value, if it has elements. -/
def textsOf (v : Json) : Except PackageError (List String) :=
  match v.elements? with
  | some xs => .ok (xs.filterMap Json.str?)
  | none => .error {}

/-- Files that the installation runs or always loads. -/
def entryFiles (composer : Json) : Except PackageError (List String) := do
  let bins ← match composer.get? "bin" with
    | some (.str s) => .ok [s]
    | some v => textsOf v
    | none => .ok []
  let loaded ← match composer.get? "autoload" with
    | some (.obj ms) => ((Assoc.get? ms "files").map textsOf).getD (.ok [])
    | _ => .ok []
  return (bins ++ loaded).map fun f => if Text.startsWith f "./" then Text.dropChars 2 f else f

end Packages

/-- Why the dependencies of a project cannot be told. -/
inductive DependencyError where
  | text (e : TextError)
  | packages (e : PackageError)

/-- The dependencies of a project; none without both files. -/
def Dependencies.load (d : Disk) (root : Path) (composer : Json) :
    Except DependencyError (Option Dependencies × List LogLine) :=
  if composer.members.isEmpty then .ok (none, []) else
  match Packages.loadLock d root with
  | .error e => .error (.text e)
  | .ok (lock, logs) =>
    if lock.members.isEmpty then
      let line := "No composer.lock in " ++ root.text ++ "; skipping dependency analysis"
      .ok (none, logs ++ [⟨.info, line⟩])
    else
      match Dependencies.ofProject (root.below "composer.json").text composer lock with
      | .error e => .error (.packages e)
      | .ok deps => .ok (some deps, logs)

end DeadCode
