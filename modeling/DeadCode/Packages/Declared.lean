import DeadCode.Packages.NamespaceMap

/-!
# Declared packages

The packages that a project requires, and with the namespaces of the locked ones what is needed to tell which of them
are used.
-/

namespace DeadCode
set_option autoImplicit false

/-- A package that a project requires, for use or for development only. -/
structure Package where
  name : String
  forDev : Bool := false
  deriving DecidableEq, Inhabited, Repr

namespace Package

/-- Packages that only configure the installation. -/
def configuring : List String := [
  "roave/security-advisories", "composer/installers", "symfony/flex", "dealerdirect/phpcodesniffer-composer-installer"]

/-- Is the requirement one on the platform? -/
def isPlatform (name : String) : Bool :=
  let name := Text.lower name
  name == "php" || Text.startsWith name "ext-" || Text.startsWith name "lib-"

/-- The packages of one section. -/
def ofSection (composer : Json) (key : String) (forDev : Bool) : List Package :=
  match composer.get? key with
  | some (.obj ms) =>
    ((ms.map fun m => Text.lower m.1).filter fun n => !isPlatform n && !configuring.contains n).map fun n => ⟨n, forDev⟩
  | _ => []

/-- The first package of each name. -/
def firstOfName (seen : List String) : List Package → List Package
  | [] => []
  | p :: ps => if seen.contains p.name then firstOfName seen ps else p :: firstOfName (p.name :: seen) ps

/-- The packages that a project requires, each once; those for use come first. -/
def declared (composer : Json) : List Package :=
  firstOfName [] (ofSection composer "require" false ++ ofSection composer "require-dev" true)

end Package

/-- What a project requires and where names come from. -/
structure Dependencies where
  file : String
  packages : List Package := []
  namespaces : NamespaceMap := {}
  deriving Inhabited, Repr

/-- The dependencies of a project from its two files. -/
def Dependencies.ofProject (file : String) (composer lock : Json) : Except PackageError Dependencies := do
  return { file, packages := Package.declared composer, namespaces := ← NamespaceMap.ofProject composer lock }

end DeadCode
