import DeadCode.Text.Blank
import DeadCode.Text.Case

/-!
# Qualified names

Names with segments separated by backslashes.
-/

namespace DeadCode.Name
set_option autoImplicit false

/-- The last segment. -/
def short (name : String) : String := String.ofList (Text.afterLast '\\' name.toList)

/-- A name inside a namespace; the global namespace is empty. -/
def qualify (space name : String) : String := if space.isEmpty then name else space ++ "\\" ++ name

/-- The name without the blanks that may stand around its separators. -/
def clean (raw : String) : String := Text.removeBlanks raw

/-- The name without leading separators. -/
def unrooted (name : String) : String := Text.trimStart (· == '\\') name

/-- The name without separators at both ends. -/
def trimSeparators (name : String) : String := Text.trimBoth (· == '\\') name

/-- The first segment, and the rest if there is a separator. -/
def cutFirst (name : String) : String × Option String :=
  let cs := name.toList
  let first := cs.takeWhile (· ≠ '\\')
  match cs.drop first.length with
  | [] => (String.ofList first, none)
  | _ :: rest => (String.ofList first, some (String.ofList rest))

/-- Type words that no declaration can bear. -/
def builtinTypes : List String := [
  "int", "integer", "float", "double", "string", "bool", "boolean", "array", "object", "callable", "iterable", "void",
  "null", "mixed", "never", "true", "false", "self", "static", "parent"]

/-- Is the name a type of the language itself? -/
def isBuiltinType (raw : String) : Bool := builtinTypes.contains (Text.lower (unrooted (clean raw)))

/-- Words that name a class by its place. -/
def relativeWords : List String := ["self", "static", "parent"]

/-- Does the name stand for the class at hand, its late-bound form or its parent? -/
def isRelative (name : String) : Bool := relativeWords.contains (Text.lower name)

/-- Constants such as `__LINE__`, which the language defines. -/
def isMagicConstant (name : String) : Bool :=
  name.length > 4 && Text.startsWith name "__" && Text.endsWith name "__"

end DeadCode.Name
