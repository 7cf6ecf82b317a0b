import DeadCode.Disk
import DeadCode.Text.FileName

/-!
# Looking for files

The entries of a disk below a directory whose names fit a pattern, name by name. Two stars stand for any number of
directories, and a slash at the end asks for directories.
-/

namespace DeadCode
set_option autoImplicit false

/-- Why a pattern cannot be looked for. -/
inductive FindError where
  | empty
  | absolute
  | noNames
  | starsInName
  deriving DecidableEq, Repr

/-- The wording of the error. -/
def FindError.message : FindError → String
  | .empty => "Unacceptable pattern: ''"
  | .absolute => "Non-relative patterns are unsupported"
  | .noNames => "A pattern has no names"
  | .starsInName => "Invalid pattern: '**' can only be an entire path component"

namespace Disk

/-- Do the names fit the patterns? Names that two stars stand for are those of directories. -/
def namesFit (isDirectory : List String → Bool) (before : List String) : List String → List String → Bool
  | [], ns => ns.isEmpty
  | p :: ps, ns =>
    if p == "**" then
      (List.range (ns.length + 1)).any fun k =>
        isDirectory (before ++ ns.take k) && namesFit isDirectory (before ++ ns.take k) ps (ns.drop k)
    else
      match ns with
      | n :: rest => Text.matchesName p n && namesFit isDirectory (before ++ [n]) ps rest
      | [] => false

/-- The entries below a directory whose names fit the patterns, in order. -/
def matching (d : Disk) (dir : Path) (patterns : List String) : List Path :=
  let isDirectory := fun (ns : List String) => d.isDirectory { dir with names := dir.names ++ ns }
  ((d.below dir).filter fun ns => namesFit isDirectory [] patterns ns).map fun ns =>
    { dir with names := dir.names ++ ns }

/-- The entries below a directory that fit a written pattern, in order. -/
def find (d : Disk) (dir : Path) (pattern : String) : Except FindError (List Path) :=
  let p := Path.ofString pattern
  let onlyDirectories := Text.endsWith pattern "/"
  if pattern.isEmpty then .error .empty
  else if p.isAbsolute then .error .absolute
  else if p.names.isEmpty && !onlyDirectories then .error .noNames
  else if p.names.any fun n => n != "**" && Text.occursIn ['*', '*'] n.toList then .error .starsInName
  else .ok ((d.matching dir p.names).filter fun q => !onlyDirectories || d.isDirectory q)

end Disk
end DeadCode
