import DeadCode.Assoc
import DeadCode.Json.Basic
import DeadCode.Text.Case

/-!
# Namespaces of packages

Which package a class or function comes from: the package with the longest namespace that its name lies in.
-/

namespace DeadCode
set_option autoImplicit false

/-- Package names by namespace, both in small letters. -/
structure NamespaceMap where
  entries : List (String × String) := []
  deriving Inhabited, Repr

/-- A list of packages that cannot be gone through. -/
structure PackageError where
  deriving Repr

namespace NamespaceMap

/-- The map of namespaces and packages; the last entry for a namespace holds. -/
def ofEntries (es : List (String × String)) : NamespaceMap :=
  ⟨Assoc.ofPairs (es.map fun e => (Text.lower (Text.trimBoth (· == '\\') e.1), Text.lower e.2))⟩

/-- Number of namespaces. -/
def size (m : NamespaceMap) : Nat := m.entries.length

/-- The entries, longer namespaces first. -/
def byLength (m : NamespaceMap) : List (String × String) :=
  m.entries.mergeSort fun a b => decide (b.1.length ≤ a.1.length)

/-- Does a name lie in a namespace, or is it that namespace? -/
def covers (space name : String) : Bool := name == space || Text.startsWith name (space ++ "\\")

/-- The package of a name in small letters. -/
def find (m : NamespaceMap) (name : String) : Option String :=
  (m.byLength.find? fun e => covers e.1 name).map (·.2)

/-- The package of a class. -/
def ofClass (m : NamespaceMap) (name : String) : Option String :=
  m.find (Text.lower (Text.trimStart (· == '\\') name))

/-- The package of a function: that of its namespace. A function outside any namespace has none. -/
def ofFunction (m : NamespaceMap) (name : String) : Option String :=
  match Text.beforeLast? '\\' (Text.lower (Text.trimStart (· == '\\') name)).toList with
  | some space => m.find (String.ofList space)
  | none => none

/-- The namespaces that an autoload section declares. -/
def autoloaded (autoload : Json) : List String :=
  ["psr-4", "psr-0"].flatMap fun standard =>
    match autoload.get? standard with
    | some (.obj ms) => (ms.map fun m => Text.trimEnd (· == '\\') m.1).filter (!·.isEmpty)
    | _ => []

/-- The elements of a section of a lock file; a section without a value has none. -/
def sectionItems (section_ : Option Json) : Except PackageError (List Json) :=
  match section_ with
  | none => .ok []
  | some v =>
    if !v.isSet then .ok []
    else
      match v.elements? with
      | some xs => .ok xs
      | none => .error {}

/-- The entries of one locked package. -/
def packageEntries (package : Json) : List (String × String) :=
  match package.get? "name" with
  | some (.str name) => (autoloaded ((package.get? "autoload").getD .null)).map fun p => (p, name)
  | _ => []

/-- The name of the project where it has none of its own. -/
def projectName : String := "(project)"

/-- The map of a project: the namespaces of every locked package, then its own. -/
def ofProject (composer lock : Json) : Except PackageError NamespaceMap := do
  let locked ← sectionItems (lock.get? "packages")
  let lockedForDev ← sectionItems (lock.get? "packages-dev")
  let project := match composer.get? "name" with
    | some (.str name) => name
    | _ => projectName
  let own := (autoloaded ((composer.get? "autoload").getD .null)).map fun p => (p, project)
  return ofEntries ((locked ++ lockedForDev).flatMap packageEntries ++ own)

end NamespaceMap
end DeadCode
