import DeadCode.Glob.Files
import DeadCode.Text.Case

/-!
# Source files of a project

The files below a directory that hold PHP code, by the ending of their names.
-/

namespace DeadCode.Project
set_option autoImplicit false

/-- Endings of source files. -/
def sourceEndings : List String := [".php", ".phtml", ".inc"]

/-- Does the path name a source file? Letters of the ending count in both cases. -/
def isSource (p : Path) : Bool := sourceEndings.contains (Text.lower p.ending)

/-- Directories that are passed over unless others are given. -/
def defaultExcluded : List String := ["vendor", "node_modules", ".git"]

/-- The source files at or below a path, in order, without those in excluded directories. Below a directory the ending
has to be in small letters. -/
def discover (d : Disk) (root : Path) (excluded : List String) : List Path :=
  if d.isFile root then
    if isSource root then [root] else []
  else
    ((d.below root).filter fun names =>
      !names.dropLast.any excluded.contains && sourceEndings.any (Text.endsWith (names.getLast?.getD "")) &&
        d.isFile { root with names := root.names ++ names }).map fun names => { root with names := root.names ++ names }

end DeadCode.Project
