import DeadCode.Analysis.Context

/-!
# What is in use

Tests for the use of classes, functions, constants and members by the references of a context. A class that only names
itself is not in use. A member is in use if a reference with its name may mean it: one that names no class, or one whose
class is related to the member's.
-/

namespace DeadCode
set_option autoImplicit false

/-- Why an analysis stops. -/
inductive AnalysisError where
  | unknownRule (name : String)
  | memberWithoutOwner
  deriving DecidableEq, Repr

/-- The wording of the error. -/
def AnalysisError.message : AnalysisError → String
  | .unknownRule name => "Unknown rule: " ++ name
  | .memberWithoutOwner => ""

/-- Class names that a reference speaks of, in small letters. A name computed at run time still names the class before
it. -/
def Reference.classNames (r : Reference) : List String :=
  (if r.kind.namesClass && !r.isDynamic then [Text.lower r.name] else []) ++
    (if r.kind.namesOwner then (r.parent?.filter (· != "parent")).toList.map Text.lower else [])

/-- Does the reference stand inside the class? -/
def Reference.isInside (r : Reference) (fqn : String) : Bool :=
  ((r.enclosing.filter (!·.isEmpty)).map Text.lower) == some (Text.lower fqn)

/-- The classes that are named, each with the reference that names it. -/
structure ClassUsage where
  entries : List (String × Reference)

namespace ClassUsage

/-- The usage of classes in a context. -/
def of (c : Context) : ClassUsage := ⟨c.references.flatMap fun r => r.classNames.map fun n => (n, r)⟩

/-- Is the class named from outside, by its full name or, if it is in a namespace, by its short one? -/
def isReferenced (u : ClassUsage) (s : Symbol) : Bool :=
  let fqn := Text.lower s.fqn
  let name := Text.lower s.name
  u.entries.any fun e => (e.1 == fqn || (!s.space.isEmpty && e.1 == name)) && !e.2.isInside s.fqn

/-- Is the class extended from outside? -/
def hasSubclass (u : ClassUsage) (s : Symbol) : Bool :=
  let fqn := Text.lower s.fqn
  u.entries.any fun e => e.1 == fqn && e.2.kind == .extension && !e.2.isInside s.fqn

end ClassUsage

namespace Context

/-- The metadata key of symbols that a framework uses. -/
def frameworkMark : String := "framework_used"

/-- Is the class in use? -/
def isClassLive (c : Context) (u : ClassUsage) (s : Symbol) : Bool :=
  u.isReferenced s || (s.isAbstract && u.hasSubclass s) || s.hasMark frameworkMark || c.isEntrySymbol s.fqn

/-- Names of called functions, in full and short, in small letters. -/
def calledFunctions (c : Context) : List String :=
  (c.referencesOf [.functionCall] false).flatMap fun r => [Text.lower r.name, Text.lower r.shortName]

/-- Is the function in use? -/
def isFunctionLive (c : Context) (called : List String) (s : Symbol) : Bool :=
  called.contains (Text.lower s.fqn) || called.contains (Text.lower s.name) || s.hasMark frameworkMark ||
    c.isEntrySymbol s.fqn

/-- Names of constants that are read, in full and short. -/
def readConstants (c : Context) : List String :=
  (c.referencesOf [.constant] false).flatMap fun r => [r.name, r.shortName]

/-- Is the constant outside classes in use? -/
def isConstantLive (c : Context) (read : List String) (s : Symbol) : Bool :=
  read.contains s.fqn || read.contains s.name || c.isEntrySymbol s.fqn

/-- May a reference mean a member of one of the classes? -/
def meansMemberOf (family : List String) (r : Reference) : Bool :=
  match r.parent with
  | none => true
  | some p => p == "parent" || family.contains (Text.lower p)

/-- The class of a member. -/
def ownerOf (s : Symbol) : Except AnalysisError String :=
  match s.owner with
  | some o => .ok o
  | none => .error .memberWithoutOwner

/-- Is a member meant by one of the references with its name? -/
def isMemberLive (c : Context) (s : Symbol) (named : List Reference) : Except AnalysisError Bool := do
  let owner ← ownerOf s
  let family := c.table.family owner
  return named.any (meansMemberOf family)

/-- Does a framework use a class of this name? -/
def isFrameworkClass (c : Context) (owner : Option String) : Bool :=
  match owner with
  | some o => (c.table.get o).any (·.hasMark frameworkMark)
  | none => false

end Context
end DeadCode
