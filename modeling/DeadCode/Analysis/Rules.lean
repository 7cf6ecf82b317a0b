import DeadCode.Analysis.Liveness
import DeadCode.Record.Issue

/-!
# The rules

Each rule goes through the symbols, imports, files or packages that it is about and reports those that are not in use.
`analyze` runs rules and puts their findings in order.
-/

namespace DeadCode
set_option autoImplicit false

namespace Rule

/-- Methods that are called by the language itself. -/
def magicMethods : List String := [
  "__construct", "__destruct", "__call", "__callstatic", "__get", "__set", "__isset", "__unset", "__sleep", "__wakeup",
  "__serialize", "__unserialize", "__tostring", "__invoke", "__set_state", "__clone", "__debuginfo"]

/-- What is said of a symbol that is not in use. -/
def messageFor (s : Symbol) : String :=
  let quoted := " '" ++ s.displayName ++ "' "
  match s.kind with
  | .classType => "Class" ++ quoted ++ "is never used"
  | .enumType => "Enum" ++ quoted ++ "is never used"
  | .interfaceType => "Interface" ++ quoted ++ "is never implemented"
  | .traitType => "Trait" ++ quoted ++ "is never used"
  | .function => "Function" ++ quoted ++ "is never called"
  | .method => "Method" ++ quoted ++ "is never called"
  | .property => "Property" ++ quoted ++ "is never accessed"
  | .classConstant => "Constant" ++ quoted ++ "is never used"
  | .globalConstant => "Constant" ++ quoted ++ "is never used"

/-- The finding about a symbol. -/
def issueFor (rule : Rule) (s : Symbol) (severity : Severity) : Issue :=
  { rule := rule.label, symbol := s.displayName, file := s.file, line := s.startLine, severity
    message := messageFor s, symbolKind := some s.kind.label }

/-- Findings about classes of the kinds. -/
def checkClasses (c : Context) (rule : Rule) (kinds : List SymbolKind) (severity : Severity) : List Issue :=
  let u := ClassUsage.of c
  ((c.table.ofKinds kinds).filter fun s => !c.isIgnored s rule.label && !c.isClassLive u s).map
    (issueFor rule · severity)

/-- Findings about functions. -/
def checkFunctions (c : Context) (severity : Severity) : List Issue :=
  let called := c.calledFunctions
  ((c.table.ofKinds [.function]).filter fun s => !c.isIgnored s functions.label && !c.isFunctionLive called s).map
    (issueFor functions · severity)

/-- Is the rule about this method? -/
def judgesMethod (c : Context) (s : Symbol) : Bool :=
  (s.isPrivate || c.settings.checkPublicMethods) && !magicMethods.contains (Text.lower s.name) && !s.isAbstract &&
    !c.isIgnored s methods.label && !(s.isPublic && c.isFrameworkClass s.owner)

/-- Findings about methods. What is not private may be called from elsewhere, so it is only mentioned. -/
def checkMethods (c : Context) (severity : Severity) : Except AnalysisError (List Issue) := do
  let calls := (c.referencesOf [.methodCall, .staticCall] false).map fun r => (Text.lower r.name, r)
  let found ← (c.table.ofKinds [.method]).mapM fun s =>
    if judgesMethod c s then do
      let name := Text.lower s.name
      let live ← c.isMemberLive s ((calls.filter (·.1 == name)).map (·.2))
      return if live then [] else [issueFor methods s (if s.isPrivate then severity else .info)]
    else return []
  return found.flatten

/-- Findings about properties. One that may be accessed by a name computed at run time is only mentioned. -/
def checkProperties (c : Context) (severity : Severity) : Except AnalysisError (List Issue) := do
  let accesses := c.referencesOf [.propertyAccess, .staticProperty] false
  let dynamic := c.dynamicClasses
  let found ← (c.table.ofKinds [.property]).mapM fun s =>
    if s.isPrivate && !c.isIgnored s properties.label then do
      let live ← c.isMemberLive s (accesses.filter (·.name == s.name))
      let owner ← Context.ownerOf s
      return if live then [] else [issueFor properties s (if dynamic.contains (Text.lower owner) then .info else severity)]
    else return []
  return found.flatten

/-- Is the rule about this constant? Cases of an enum can be used without being named. -/
def judgesConstant (c : Context) (s : Symbol) : Bool :=
  !s.hasMark "enum_case" && !(s.kind == .classConstant && s.isPublic && !c.settings.checkPublicConstants) &&
    !c.isIgnored s constants.label

/-- Findings about constants. -/
def checkConstants (c : Context) (severity : Severity) : Except AnalysisError (List Issue) := do
  let read := c.readConstants
  let accesses := c.referencesOf [.classConstantAccess] false
  let found ← (c.table.ofKinds [.globalConstant, .classConstant]).mapM fun s =>
    if judgesConstant c s then do
      let live ← if s.kind == .globalConstant then pure (c.isConstantLive read s)
        else c.isMemberLive s (accesses.filter (·.name == s.name))
      return if live then [] else [issueFor constants s severity]
    else return []
  return found.flatten

/-- Names that a file uses, in small letters. -/
def namesUsedIn (c : Context) (file : String) : List String :=
  ((c.referencesIn file).filter fun r => !r.isDynamic && !r.kind.isImport).flatMap fun r =>
    Text.lower r.name :: r.parent?.toList.map Text.lower

/-- Is an import used by one of the names: its own, one below it, or, without an alias, one with the same short name? -/
def isImportUsed (used : List String) (u : Import) : Bool :=
  let fqn := Text.lower u.fqn
  used.any fun n =>
    n == fqn || Text.startsWith n (fqn ++ "\\") || (!u.explicitAlias && Name.short n == Name.short fqn)

/-- Findings about the imports of a file. -/
def checkFileImports (c : Context) (severity : Severity) (file : String) (us : List Import) : List Issue :=
  if us.isEmpty || c.isPathIgnored file then [] else
  let used := namesUsedIn c file
  (us.filter fun u => !isImportUsed used u && !c.matchesIgnore u.fqn).map fun u =>
    { rule := imports.label, symbol := u.fqn, file, line := u.line, severity
      message := "Use statement '" ++ u.fqn ++ "' is never used", symbolKind := some "import" }

/-- Findings about imports. -/
def checkImports (c : Context) (severity : Severity) : List Issue :=
  (c.imports.mergeSort fun a b => decide (a.1 ≤ b.1)).flatMap fun e => checkFileImports c severity e.1 e.2

/-- Is a declaration outside classes in use? Those that are to be ignored count as used. -/
def keepsFile (c : Context) (u : ClassUsage) (called read : List String) (s : Symbol) : Bool :=
  s.ignored || c.matchesIgnore s.fqn ||
    (if s.kind.isClassLike then c.isClassLive u s
    else if s.kind == .function then c.isFunctionLive called s
    else c.isConstantLive read s)

/-- Findings about files in which nothing is in use. -/
def checkFiles (c : Context) (severity : Severity) : List Issue :=
  let u := ClassUsage.of c
  let called := c.calledFunctions
  let read := c.readConstants
  let isUnused := fun (file : String) =>
    let declared := (c.table.inFile file).filter (·.kind.isTopLevel)
    !declared.isEmpty && !c.isEntryFile file && !c.isPathIgnored file && !declared.any (keepsFile c u called read)
  (c.table.files.filter isUnused).map fun file =>
    let relative := c.relativePath file
    { rule := files.label, symbol := relative, file, line := 0, severity
      message := "File '" ++ relative ++ "' contains no used code", symbolKind := some "file" }

/-- References that need the code of a package. -/
def needsPackage (r : Reference) : Bool :=
  (r.kind.namesClass || r.kind.isImport || r.kind == .staticCall || r.kind == .functionCall) && !r.isDynamic

/-- Packages that a reference needs. -/
def packagesOf (m : NamespaceMap) (r : Reference) : List String :=
  let own := if r.kind == .functionCall then m.ofFunction r.name else m.ofClass r.name
  let parent := (r.parent?.filter fun p => !(["self", "static", "parent"] : List String).contains p).bind m.ofClass
  own.toList ++ parent.toList

/-- Packages that the code needs. -/
def usedPackages (c : Context) (d : Dependencies) : List String :=
  ((c.references.filter needsPackage).flatMap (packagesOf d.namespaces)).eraseDups

/-- Findings about packages. Those for development are run from outside the code, so they are only mentioned. -/
def checkDependencies (c : Context) (severity : Severity) : List Issue :=
  match c.dependencies with
  | none => []
  | some d =>
    let used := usedPackages c d
    (d.packages.filter fun p =>
      !used.contains p.name && !Glob.matchesSymbol p.name c.settings.ignoreDependencies).map fun p =>
        { rule := dependencies.label, symbol := p.name, file := d.file, line := 0
          severity := if p.forDev then .info else severity
          message := "Package '" ++ p.name ++ "' is declared as " ++ (if p.forDev then "dev " else "") ++
            "dependency but never used"
          symbolKind := some "dependency" }

/-- The findings of a rule with a severity. -/
def check (rule : Rule) (c : Context) (severity : Severity) : Except AnalysisError (List Issue) :=
  match rule with
  | .classes => .ok (checkClasses c .classes [.classType, .enumType] severity)
  | .interfaces => .ok (checkClasses c .interfaces [.interfaceType] severity)
  | .traits => .ok (checkClasses c .traits [.traitType] severity)
  | .functions => .ok (checkFunctions c severity)
  | .methods => checkMethods c severity
  | .properties => checkProperties c severity
  | .constants => checkConstants c severity
  | .imports => .ok (checkImports c severity)
  | .files => .ok (checkFiles c severity)
  | .dependencies => .ok (checkDependencies c severity)

end Rule

namespace Context

/-- The findings of a rule by name; none if it is off. -/
def runRule (c : Context) (name : String) : Except AnalysisError (List Issue) :=
  match Rule.ofLabel? name with
  | none => .error (.unknownRule name)
  | some rule =>
    match c.severity name with
    | none => .ok []
    | some severity => rule.check c severity

/-- The findings of the rules that are on, each once and in order of place. -/
def analyze (c : Context) (rules : List String) : Except AnalysisError (List Issue) := do
  let found ← (rules.filter fun r => (c.severity r).isSome).mapM c.runRule
  return Issue.canonical found.flatten

/-- The findings of all rules. -/
def analyzeAll (c : Context) : Except AnalysisError (List Issue) := c.analyze (Rule.all.map Rule.label)

end Context
end DeadCode
