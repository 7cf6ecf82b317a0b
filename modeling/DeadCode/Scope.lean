import DeadCode.Assoc
import DeadCode.Name
import DeadCode.Record.Import

/-!
# Name scopes

What a name means at one point of a file: the namespace, the imports in force, the class and the function around it.
`resolveClass`, `resolveFunction` and `resolveConstant` give the full name that a written name stands for there.
-/

namespace DeadCode
set_option autoImplicit false

/-- The context in which names are resolved. Class and function aliases are kept in lower case. -/
structure Scope where
  space : String := ""
  classAliases : List (String × String) := []
  functionAliases : List (String × String) := []
  constantAliases : List (String × String) := []
  currentClass : Option String := none
  parentClass : Option String := none
  function : Option String := none
  deriving DecidableEq, Inhabited, Repr

namespace Scope

/-- A text that is there and not empty. -/
def present (s : Option String) : Option String := s.filter (!·.isEmpty)

/-- A namespace starts afresh. -/
def enterNamespace (_ : Scope) (raw : String) : Scope := { space := Name.trimSeparators (Name.clean raw) }

/-- One more import in force. -/
def withImport (s : Scope) (u : Import) : Scope :=
  if u.kind == "function" then { s with functionAliases := Assoc.set s.functionAliases (Text.lower u.asName) u.fqn }
  else if u.kind == "constant" then { s with constantAliases := Assoc.set s.constantAliases u.asName u.fqn }
  else { s with classAliases := Assoc.set s.classAliases (Text.lower u.asName) u.fqn }

/-- More imports in force. -/
def withImports (s : Scope) (us : List Import) : Scope := us.foldl withImport s

/-- Inside a class. -/
def enterClass (s : Scope) (fqn : String) (parent : Option String) : Scope :=
  { s with currentClass := some fqn, parentClass := parent, function := none }

/-- Inside a function or method. -/
def enterFunction (s : Scope) (name : String) : Scope := { s with function := some name }

/-- The class and function around, as one text. -/
def context (s : Scope) : String :=
  match present s.currentClass, present s.function with
  | some c, some f => c ++ "::" ++ f
  | some c, none => c
  | none, _ => s.function.getD ""

/-- The full name of a class. -/
def resolveClass (s : Scope) (raw : String) : String :=
  let name := Name.clean raw
  let low := Text.lower name
  if low == "self" || low == "static" then (present s.currentClass).getD name
  else if low == "parent" then (present s.parentClass).getD "parent"
  else if Text.startsWith name "\\" then Text.dropChars 1 name
  else if Text.startsWith low "namespace\\" then Name.qualify s.space (Text.dropChars 10 name)
  else
    let (first, rest) := Name.cutFirst name
    match present (Assoc.get? s.classAliases (Text.lower first)) with
    | some imported =>
      match rest with
      | some r => imported ++ "\\" ++ r
      | none => imported
    | none => Name.qualify s.space name

/-- The full name of a function or a constant: aliases of its own for a simple name, class aliases for a longer one. -/
def resolveWith (s : Scope) (aliases : List (String × String)) (key : String → String) (raw : String) : String :=
  let name := Name.clean raw
  if Text.startsWith name "\\" then Text.dropChars 1 name
  else if name.toList.contains '\\' then s.resolveClass name
  else
    match present (Assoc.get? aliases (key name)) with
    | some imported => imported
    | none => Name.qualify s.space name

/-- The full name of a function. -/
def resolveFunction (s : Scope) (raw : String) : String := s.resolveWith s.functionAliases Text.lower raw

/-- The full name of a constant. -/
def resolveConstant (s : Scope) (raw : String) : String := s.resolveWith s.constantAliases (fun n => n) raw

end Scope
end DeadCode
