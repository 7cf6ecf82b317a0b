import DeadCode.Analysis.Liveness
import DeadCode.Framework.Basic
import DeadCode.Glob.Files
import DeadCode.Packages.Load

/-!
# Frameworks of a project

Which of the known frameworks a project uses, and what they add to its analysis: references, patterns of names and files
to leave out, entry points, and marks on the classes that they use.
-/

namespace DeadCode
set_option autoImplicit false

/-- Why the rules of a framework cannot be followed. -/
inductive FrameworkError where
  | number (e : WholeError)
  | pattern (e : FindError)
  deriving DecidableEq, Repr

/-- The wording of the error. -/
def FrameworkError.message : FrameworkError → String
  | .number e => e.message
  | .pattern e => e.message

namespace Framework

/-- The list with one more framework; one of the same name is replaced. -/
def register : List Framework → Framework → List Framework
  | [], f => [f]
  | g :: gs, f => if g.name == f.name then f :: gs else g :: register gs f

/-- The list of the given frameworks. -/
def registerAll (fs : List Framework) : List Framework := fs.foldl register []

/-- The rules in a file. -/
def ofFile (d : Disk) (p : Path) : Except (WholeError ⊕ String) Framework :=
  match d.readJson p with
  | .error e => .error (.inr e.message)
  | .ok j =>
    if !j.isObj then .error (.inr ("Rule file " ++ p.name ++ " must contain a JSON object"))
    else
      let ending := Path.endingOf p.name
      let stem := String.ofList (p.name.toList.take (p.name.length - ending.length))
      match ofJson stem j with
      | .ok f => .ok f
      | .error .wrongShape => .error (.inl .wrongShape)
      | .error .infinite => .error (.inl .infinite)
      | .error e => .error (.inr e.message)

/-- The rules in the files of a directory, in order of name. Files that are none are passed over with a warning. -/
def ofDirectory (d : Disk) (dir : Path) : Except WholeError (List Framework × List LogLine) :=
  if !d.holds dir then .ok ([], [⟨.warning, "Rules directory not found: " ++ dir.text⟩]) else
  (d.matching dir ["*.json"]).foldlM (fun acc p =>
    match ofFile d p with
    | .ok f => .ok (acc.1 ++ [f], acc.2)
    | .error (.inl e) => .error e
    | .error (.inr text) => .ok (acc.1, acc.2 ++ [⟨.warning, "Skipping rule file " ++ p.name ++ ": " ++ text⟩]))
    (([], []) : List Framework × List LogLine)

/-- Does a project use the framework, by its files or its packages? -/
def isUsedIn (f : Framework) (d : Disk) (root : Path) (composer : Json) : Bool :=
  let packages := Packages.required composer
  f.detectFiles.any (fun m => d.holds (root.below m)) ||
    f.detectPackages.any (fun p => packages.contains (Text.lower p)) ||
    f.detectPrefixes.any fun p => packages.any fun q => Text.startsWith q (Text.lower p)

/-- The order of frameworks: higher priority first, then by name. -/
def before (f g : Framework) : Bool :=
  if f.priority == g.priority then decide (f.name ≤ g.name) else decide (g.priority < f.priority)

/-- The frameworks of a project: those that are asked for and, unless one is named, those that it uses. -/
def activate (known : List Framework) (d : Disk) (root : Path) (composer : Json) (choice : String)
    (enabled : List String) : List Framework × List LogLine :=
  let choice := Text.lower (if choice.isEmpty then "auto" else choice)
  let selected := known.filter fun f =>
    enabled.contains f.name || (if choice == "auto" then f.isUsedIn d root composer else choice == f.name)
  let isKnown := fun (n : String) => known.any (·.name == n)
  let named := if choice == "auto" || choice == "none" then [] else [choice]
  let unknown := Text.sortUnique ((enabled ++ named).filter fun n => !isKnown n)
  let active := selected.mergeSort before
  let warnings := unknown.map fun n => ⟨.warning, "Unknown framework plugin: " ++ n⟩
  let info := if active.isEmpty then [] else [⟨.info, "Active plugins: " ++ Text.join ", " (active.map (·.name))⟩]
  (active, warnings ++ info)

/-- Directories whose files register no callbacks. -/
def skippedDirectories : List String := ["vendor", "node_modules", ".git"]

/-- The files of a project that fit one of the patterns, pattern by pattern. -/
def filesOf (d : Disk) (root : Path) (patterns : List String) : Except FindError (List Path) := do
  let found ← patterns.mapM (d.find root)
  return found.flatten.filter d.isFile

/-- The files that may register callbacks. -/
def hookFiles (h : HookRules) (d : Disk) (root : Path) : Except FindError (List Path) := do
  let found := (← filesOf d root h.files).filter fun p =>
    !((p.names.drop root.names.length).dropLast.any skippedDirectories.contains)
  return (found.eraseDups).mergeSort fun p q => Disk.namesBefore p.names q.names

/-- References that the files of a project make by way of the framework. -/
def references (f : Framework) (d : Disk) (root : Path) : Except FrameworkError (List Reference) := do
  let files ← (filesOf d root f.referenceFiles).mapError .pattern
  let named := files.flatMap fun p =>
    match d.readTextAnyway p with
    | some text => ClassNames.scan text p.text f.name
    | none => []
  match f.hooks with
  | none => return named
  | some h =>
    let registered ← (← (hookFiles h d root).mapError .pattern).mapM fun p =>
      match d.readTextAnyway p with
      | some text => (Hooks.scan text p.text h.functions h.commands f.name).mapError .number
      | none => .ok []
    return named ++ registered.flatten

/-- A file as seen from the project. -/
def relativeFile (here root : Path) (file : String) : String :=
  let p := Path.ofString file
  (((here.resolve p).relativeTo? (here.resolve root)).getD p).text

/-- Why the framework uses a class, if it does. -/
def reasonFor (f : Framework) (here root : Path) (table : SymbolTable) (s : Symbol) : Option String :=
  let file := relativeFile here root s.file
  let inDirectory := f.directories.any fun d => Text.startsWith file (Text.trimBoth (· == '/') d ++ "/")
  let bases := f.baseClasses.map fun b => Text.lower (Text.trimStart (· == '\\') b)
  let hasBase := !bases.isEmpty && (table.ancestors s.fqn).any bases.contains
  let inNamespace := f.namespaces.any fun n =>
    Text.startsWith (Text.lower s.fqn) (Text.lower (Text.trimBoth (· == '\\') n) ++ "\\")
  if inDirectory then some (f.name ++ ": framework directory")
  else if hasBase then some (f.name ++ ": framework base class")
  else if inNamespace then some (f.name ++ ": framework namespace")
  else none

/-- A symbol with the mark of the framework, if it is a class that the framework uses. -/
def markOne (f : Framework) (here root : Path) (table : SymbolTable) (s : Symbol) : Symbol :=
  if !s.kind.isClassLike then s else
  match f.reasonFor here root table s with
  | some reason =>
    let marked := Assoc.set s.metadata Context.frameworkMark (.bool true)
    { s with metadata := Assoc.set marked "framework_reason" (.str reason) }
  | none => s

/-- The table with the marks of a framework, which are metadata of its symbols. -/
def annotate (f : Framework) (here root : Path) (table : SymbolTable) : SymbolTable :=
  table.mapMetadata fun s => (f.markOne here root table s).metadata

/-- The table with the marks of all frameworks. -/
def annotateAll (active : List Framework) (here root : Path) (table : SymbolTable) : SymbolTable :=
  active.foldl (fun t f => f.annotate here root t) table

/-- Entry points of all frameworks, each once. -/
def entryPointsOf (active : List Framework) : List String := (active.flatMap (·.entryPoints)).eraseDups

/-- Is an entry point a file or a pattern of files? -/
def isFileEntry (entry : String) : Bool :=
  entry.toList.contains '/' || entry.toList.contains '*' ||
    [".php", ".phtml", ".inc"].any fun e => Text.endsWith entry e

/-- Entry points that are symbols, and those that are files. -/
def splitEntryPoints (entries : List String) : List String × List String :=
  (entries.filter fun e => !isFileEntry e, entries.filter isFileEntry)

end Framework
end DeadCode
