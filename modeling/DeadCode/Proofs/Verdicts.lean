import DeadCode.Analysis.Rules
import DeadCode.Proofs.Canonical
import DeadCode.Proofs.Hierarchy

/-!
# Rules as filters

A rule about symbols is a filter: `isUnused` says of one symbol whether its rule reports it, and `findings` lists what
is reported. A rule fails only if it asks for the owner of a member that has none (`check_eq_ite`), so not at all where
every member has one. `analyze_eq` gives the analysis in these terms, and the `iff` lemmas beside it say what a use is: a
reference of the right kind with the right name.
-/

namespace DeadCode
set_option autoImplicit false

/-- Kinds of symbols that belong to a class. -/
def SymbolKind.isMember : SymbolKind → Bool
  | .method | .property | .classConstant => true
  | _ => false

/-- Every member has an owner. -/
def Context.Owned (c : Context) : Prop := ∀ s ∈ c.table.symbols, s.kind.isMember = true → s.owner.isSome = true

theorem SymbolTable.mem_ofKinds {t : SymbolTable} {kinds : List SymbolKind} {s : Symbol} :
    s ∈ t.ofKinds kinds ↔ s ∈ t.symbols ∧ s.kind ∈ kinds := by
  simp only [ofKinds_eq_flatMap, List.mem_flatMap, List.mem_filter, beq_iff_eq]
  exact ⟨fun ⟨_, k, h, e⟩ => ⟨h, e ▸ k⟩, fun ⟨h, k⟩ => ⟨s.kind, k, h, rfl⟩⟩

namespace Context

/-- May one of the references of the kinds mean the member? Names are compared in the given spelling. -/
def meansMember (c : Context) (kinds : List ReferenceKind) (spelling : String → String) (s : Symbol) : Bool :=
  ((c.referencesOf kinds false).filter fun r => spelling r.name == spelling s.name).any
    (meansMemberOf (c.table.family (s.owner.getD "")))

theorem isMemberLive_eq {c : Context} {s : Symbol} (owned : s.owner.isSome = true) (named : List Reference) :
    c.isMemberLive s named = .ok (named.any (meansMemberOf (c.table.family (s.owner.getD "")))) := by
  obtain ⟨o, eq⟩ := Option.isSome_iff_exists.1 owned
  simp only [isMemberLive, ownerOf, eq, Option.getD_some]
  rfl

theorem mem_referencesOf {c : Context} {kinds : List ReferenceKind} {withDynamic : Bool} {r : Reference} :
    r ∈ c.referencesOf kinds withDynamic ↔
      r ∈ c.references ∧ r.kind ∈ kinds ∧ (withDynamic = true ∨ r.isDynamic = false) := by
  simp only [referencesOf, List.mem_flatMap, List.mem_filter, Bool.and_eq_true, beq_iff_eq, Bool.or_eq_true,
    Bool.not_eq_true']
  exact ⟨fun ⟨_, k, h, e, d⟩ => ⟨h, e ▸ k, d⟩, fun ⟨h, k, d⟩ => ⟨r.kind, k, h, rfl, d⟩⟩

end Context

namespace Rule

/-- Kinds of the symbols that a rule is about. -/
def kinds : Rule → List SymbolKind
  | classes => [.classType, .enumType]
  | interfaces => [.interfaceType]
  | traits => [.traitType]
  | functions => [.function]
  | methods => [.method]
  | properties => [.property]
  | constants => [.globalConstant, .classConstant]
  | imports | files | dependencies => []

/-- Does the rule report a symbol of its kinds? -/
def isUnused (rule : Rule) (c : Context) (s : Symbol) : Bool :=
  match rule with
  | classes | interfaces | traits => !c.isIgnored s rule.label && !c.isClassLive (ClassUsage.of c) s
  | functions => !c.isIgnored s functions.label && !c.isFunctionLive c.calledFunctions s
  | methods => judgesMethod c s && !c.meansMember [.methodCall, .staticCall] Text.lower s
  | properties =>
    (s.isPrivate && !c.isIgnored s properties.label) && !c.meansMember [.propertyAccess, .staticProperty] id s
  | constants =>
    judgesConstant c s && !(if s.kind == .globalConstant then c.isConstantLive c.readConstants s
      else c.meansMember [.classConstantAccess] id s)
  | imports | files | dependencies => false

/-- The severity of a finding about a symbol. -/
def severityFor (rule : Rule) (c : Context) (severity : Severity) (s : Symbol) : Severity :=
  match rule with
  | methods => if s.isPrivate then severity else .info
  | properties => if c.dynamicClasses.contains (Text.lower (s.owner.getD "")) then .info else severity
  | _ => severity

/-- The findings of a rule about symbols. -/
def symbolFindings (rule : Rule) (c : Context) (severity : Severity) : List Issue :=
  ((c.table.ofKinds rule.kinds).filter (rule.isUnused c)).map fun s => issueFor rule s (rule.severityFor c severity s)

/-- The findings of a rule. -/
def findings (rule : Rule) (c : Context) (severity : Severity) : List Issue :=
  match rule with
  | imports => checkImports c severity
  | files => checkFiles c severity
  | dependencies => checkDependencies c severity
  | rule => symbolFindings rule c severity

/-- Is the symbol a member that the rule judges by the uses of its class? -/
def judgesMember (rule : Rule) (c : Context) (s : Symbol) : Bool :=
  match rule with
  | methods => judgesMethod c s
  | properties => s.isPrivate && !c.isIgnored s properties.label
  | constants => s.kind == .classConstant && judgesConstant c s
  | _ => false

/-- Does the rule ask for an owner that is not there? -/
def lacksOwner (rule : Rule) (c : Context) (s : Symbol) : Bool := rule.judgesMember c s && s.owner.isNone

/-- A walk in which each step fails in one way or gives at most one finding is a filter, unless a step fails. -/
theorem mapM_flatten_eq {ss : List Symbol} {step : Symbol → Except AnalysisError (List Issue)} {e : AnalysisError}
    {faulty p : Symbol → Bool} {f : Symbol → Issue}
    (h : ∀ s ∈ ss, step s = if faulty s then .error e else .ok (if p s then [f s] else [])) :
    (do let found ← ss.mapM step; return found.flatten) =
      if ss.any faulty then Except.error e else .ok ((ss.filter p).map f) := by
  have each : ss.mapM step =
      if ss.any faulty then .error e else .ok (ss.map fun s => if p s then [f s] else []) := by
    induction ss with
    | nil => rfl
    | cons s ss ih =>
      rw [List.mapM_cons, h s List.mem_cons_self, ih fun t ht => h t (List.mem_cons_of_mem _ ht), List.any_cons]
      cases faulty s with
      | true => rfl
      | false => cases ss.any faulty <;> rfl
  have flat : (ss.map fun s => if p s then [f s] else []).flatten = (ss.filter p).map f := by
    clear each h
    induction ss with
    | nil => rfl
    | cons s ss ih =>
      by_cases hp : p s = true
      · simp [hp, ih]
      · simp [hp, ih]
  rw [each, ← flat]
  cases ss.any faulty <;> rfl

section Members

variable (c : Context) (severity : Severity)

theorem checkMethods_eq : checkMethods c severity =
    if (c.table.ofKinds methods.kinds).any (methods.lacksOwner c) then .error .memberWithoutOwner
    else .ok (symbolFindings methods c severity) := by
  refine mapM_flatten_eq fun s _ => ?_
  by_cases judged : judgesMethod c s = true
  · rw [if_pos judged]
    cases owner : s.owner with
    | none => simp only [lacksOwner, judgesMember, judged, owner, Context.isMemberLive, Context.ownerOf]; rfl
    | some o =>
      dsimp only
      rw [Context.isMemberLive_eq (by simp [owner]), List.filter_map, List.map_map]
      simp only [lacksOwner, judgesMember, owner, Option.isNone_some, Bool.and_false, Bool.false_eq_true, if_false,
        isUnused, judged, Bool.true_and, Context.meansMember, severityFor, Function.comp_def, List.map_id']
      cases ((c.referencesOf [.methodCall, .staticCall] false).filter _).any _ <;> rfl
  · rw [if_neg judged]
    simp [lacksOwner, judgesMember, isUnused, judged, pure, Except.pure]

theorem checkProperties_eq : checkProperties c severity =
    if (c.table.ofKinds properties.kinds).any (properties.lacksOwner c) then .error .memberWithoutOwner
    else .ok (symbolFindings properties c severity) := by
  refine mapM_flatten_eq fun s _ => ?_
  by_cases judged : (s.isPrivate && !c.isIgnored s properties.label) = true
  · rw [if_pos judged]
    cases owner : s.owner with
    | none => simp only [lacksOwner, judgesMember, judged, owner, Context.isMemberLive, Context.ownerOf]; rfl
    | some o =>
      rw [Context.isMemberLive_eq (by simp [owner])]
      simp only [lacksOwner, judgesMember, owner, Option.isNone_some, Bool.and_false, Bool.false_eq_true, if_false,
        isUnused, judged, Bool.true_and, Context.meansMember, severityFor, Context.ownerOf, id]
      cases ((c.referencesOf [.propertyAccess, .staticProperty] false).filter _).any _ <;> rfl
  · rw [if_neg judged]
    simp [lacksOwner, judgesMember, isUnused, judged, pure, Except.pure]

theorem checkConstants_eq : checkConstants c severity =
    if (c.table.ofKinds constants.kinds).any (constants.lacksOwner c) then .error .memberWithoutOwner
    else .ok (symbolFindings constants c severity) := by
  refine mapM_flatten_eq fun s given => ?_
  by_cases judged : judgesConstant c s = true
  · rw [if_pos judged]
    have kind := (SymbolTable.mem_ofKinds.1 given).2
    simp only [List.mem_cons, List.not_mem_nil, or_false] at kind
    rcases kind with global | member
    · simp only [lacksOwner, judgesMember, isUnused, judged, global, Bool.true_and, severityFor]
      cases c.isConstantLive c.readConstants s <;> rfl
    · cases owner : s.owner with
      | none =>
        simp only [lacksOwner, judgesMember, judged, member, owner, Context.isMemberLive, Context.ownerOf]; rfl
      | some o =>
        simp only [lacksOwner, judgesMember, owner, isUnused, judged, member, Bool.true_and, severityFor,
          Context.isMemberLive_eq (s := s) (by simp [owner]), Context.meansMember, id]
        cases ((c.referencesOf [.classConstantAccess] false).filter _).any _ <;> rfl
  · rw [if_neg judged]
    simp [lacksOwner, judgesMember, isUnused, judged, pure, Except.pure]

/-- A rule gives its findings unless it asks for an owner that is not there. -/
theorem check_eq_ite (rule : Rule) : rule.check c severity =
    if (c.table.ofKinds rule.kinds).any (rule.lacksOwner c) then .error .memberWithoutOwner
    else .ok (rule.findings c severity) := by
  cases rule with
  | methods => exact checkMethods_eq c severity
  | properties => exact checkProperties_eq c severity
  | constants => exact checkConstants_eq c severity
  | _ =>
    rw [if_neg (by simp [lacksOwner, judgesMember])]
    rfl

end Members

/-- The kind of the members that a rule is about. -/
def memberKind? : Rule → Option SymbolKind
  | methods => some .method
  | properties => some .property
  | constants => some .classConstant
  | _ => none

theorem isMember_of_memberKind? {rule : Rule} {kind : SymbolKind} (about : rule.memberKind? = some kind) :
    kind.isMember = true := by
  cases rule <;> cases about <;> rfl

theorem memberKind?_of_judgesMember {rule : Rule} {c : Context} {s : Symbol} (kind : s.kind ∈ rule.kinds)
    (judged : rule.judgesMember c s = true) : rule.memberKind? = some s.kind := by
  cases rule with
  | methods => rw [List.mem_singleton.1 kind]; rfl
  | properties => rw [List.mem_singleton.1 kind]; rfl
  | constants =>
    simp only [judgesMember, Bool.and_eq_true, beq_iff_eq] at judged
    rw [judged.1]; rfl
  | _ => cases judged

/-- A rule that is about symbols of some kind has no findings about anything else. -/
theorem findings_eq_symbolFindings {rule : Rule} {kind : SymbolKind} (about : kind ∈ rule.kinds) (c : Context)
    (severity : Severity) : rule.findings c severity = symbolFindings rule c severity := by
  cases rule with
  | imports => cases about
  | files => cases about
  | dependencies => cases about
  | _ => rfl

/-- With owners for all members, a rule always gives its findings. -/
theorem check_eq {c : Context} (owned : c.Owned) {severity : Severity} (rule : Rule) :
    rule.check c severity = .ok (rule.findings c severity) := by
  rw [check_eq_ite, if_neg]
  simp only [List.any_eq_true, SymbolTable.mem_ofKinds, lacksOwner, Bool.and_eq_true, Option.isNone_iff_eq_none]
  rintro ⟨s, ⟨given, kind⟩, judged, none⟩
  have owner := owned s given (isMember_of_memberKind? (memberKind?_of_judgesMember kind judged))
  simp [none] at owner

/-- The key of a finding about a symbol. -/
def symbolKey (rule : Rule) (s : Symbol) : Issue.Key :=
  toLex (s.file, toLex (s.startLine, toLex (rule.label, s.displayName)))

theorem mem_symbolFindings {rule : Rule} {c : Context} {severity : Severity} {k : Issue.Key} :
    k ∈ (rule.symbolFindings c severity).map Issue.key ↔
      ∃ s ∈ c.table.symbols, s.kind ∈ rule.kinds ∧ rule.isUnused c s = true ∧ rule.symbolKey s = k := by
  simp only [symbolFindings, List.map_map, List.mem_map, List.mem_filter, SymbolTable.mem_ofKinds, Function.comp_def]
  exact ⟨fun ⟨s, ⟨⟨h, kind⟩, unused⟩, e⟩ => ⟨s, h, kind, unused, e⟩,
    fun ⟨s, h, kind, unused, e⟩ => ⟨s, ⟨⟨h, kind⟩, unused⟩, e⟩⟩

theorem mem_checkImports {c : Context} {severity : Severity} {k : Issue.Key} :
    k ∈ (checkImports c severity).map Issue.key ↔ ∃ e ∈ c.imports, c.isPathIgnored e.1 = false ∧
      ∃ u ∈ e.2, isImportUsed (namesUsedIn c e.1) u = false ∧ c.matchesIgnore u.fqn = false ∧
        toLex (e.1, toLex (u.line, toLex (imports.label, u.fqn))) = k := by
  have one : ∀ e : String × List Import, k ∈ (checkFileImports c severity e.1 e.2).map Issue.key ↔
      c.isPathIgnored e.1 = false ∧ ∃ u ∈ e.2, isImportUsed (namesUsedIn c e.1) u = false ∧
        c.matchesIgnore u.fqn = false ∧ toLex (e.1, toLex (u.line, toLex (imports.label, u.fqn))) = k := by
    intro e
    unfold checkFileImports
    by_cases ignored : c.isPathIgnored e.1 = true
    · simp [ignored]
    · by_cases none : e.2 = []
      · simp [none]
      · simp only [none, ignored, List.isEmpty_iff, Bool.or_false, if_false, List.map_map, List.mem_map,
          List.mem_filter, Bool.and_eq_true, Bool.not_eq_true', and_assoc, true_and]
        rfl
  simp only [checkImports, List.map_flatMap, List.mem_flatMap, List.mem_mergeSort, one]

theorem mem_files {t : SymbolTable} {file : String} : file ∈ t.files ↔ ∃ s ∈ t.symbols, s.file = file := by
  simp [SymbolTable.files_eq, Text.sortUnique, Text.sortStrings]

theorem mem_checkFiles {c : Context} {severity : Severity} {k : Issue.Key} :
    k ∈ (checkFiles c severity).map Issue.key ↔ ∃ file, c.isEntryFile file = false ∧ c.isPathIgnored file = false ∧
      (∃ s ∈ c.table.symbols, s.file = file ∧ s.kind.isTopLevel = true) ∧
      (∀ s ∈ c.table.symbols, s.file = file → s.kind.isTopLevel = true →
        keepsFile c (ClassUsage.of c) c.calledFunctions c.readConstants s = false) ∧
      toLex (file, toLex ((0 : Int), toLex (files.label, c.relativePath file))) = k := by
  simp only [checkFiles, List.map_map, List.mem_map, List.mem_filter, mem_files, SymbolTable.inFile_eq_filter, Bool.and_eq_true,
    Bool.not_eq_true', List.any_eq_false, List.isEmpty_eq_false_iff_exists_mem, beq_iff_eq, Bool.not_eq_true,
    Function.comp_def]
  constructor
  · rintro ⟨file, ⟨-, ⟨⟨⟨s, ⟨given, at_⟩, top⟩, entry⟩, path⟩, unused⟩, eq⟩
    exact ⟨file, entry, path, ⟨s, given, at_, top⟩, fun t given at_ top => unused t ⟨⟨given, at_⟩, top⟩, eq⟩
  · rintro ⟨file, entry, path, ⟨s, given, at_, top⟩, unused, eq⟩
    exact ⟨file, ⟨⟨s, given, at_⟩, ⟨⟨⟨s, ⟨given, at_⟩, top⟩, entry⟩, path⟩,
      fun t ⟨⟨given, at_⟩, top⟩ => unused t given at_ top⟩, eq⟩

theorem mem_checkDependencies {c : Context} {severity : Severity} {k : Issue.Key} :
    k ∈ (checkDependencies c severity).map Issue.key ↔ ∃ d ∈ c.dependencies, ∃ p ∈ d.packages,
      p.name ∉ usedPackages c d ∧ Glob.matchesSymbol p.name c.settings.ignoreDependencies = false ∧
        toLex (d.file, toLex ((0 : Int), toLex (dependencies.label, p.name))) = k := by
  unfold checkDependencies
  cases c.dependencies with
  | none => simp
  | some d =>
    simp only [List.map_map, List.mem_map, List.mem_filter, Bool.and_eq_true, Bool.not_eq_true', Function.comp_def,
      Option.mem_some_iff, exists_eq_left', and_assoc, List.contains_eq_mem, decide_eq_false_iff_not]
    rfl

end Rule

namespace Context

/-- The findings of a rule by name; none if it is off or unknown. -/
def findingsOf (c : Context) (name : String) : List Issue :=
  match Rule.ofLabel? name, c.severity name with
  | some rule, some severity => rule.findings c severity
  | _, _ => []

/-- Is there a severity for the name, but no rule? -/
def isUnknown (c : Context) (name : String) : Bool := (c.severity name).isSome && (Rule.ofLabel? name).isNone

theorem runRule_label {c : Context} {rule : Rule} {severity : Severity} (on : c.severity rule.label = some severity) :
    c.runRule rule.label = rule.check c severity := by
  simp only [runRule, Rule.ofLabel?_label, on]

theorem runRule_label_of_off {c : Context} {rule : Rule} (off : c.severity rule.label = none) :
    c.runRule rule.label = .ok [] := by
  simp only [runRule, Rule.ofLabel?_label, off]

theorem runRule_eq {c : Context} (owned : c.Owned) {name : String} (on : (c.severity name).isSome = true) :
    c.runRule name = if c.isUnknown name then .error (.unknownRule name) else .ok (c.findingsOf name) := by
  obtain ⟨severity, eq⟩ := Option.isSome_iff_exists.1 on
  unfold runRule isUnknown findingsOf
  cases Rule.ofLabel? name with
  | none => simp [eq]
  | some rule => simp [eq, Rule.check_eq owned]

theorem findingsOf_off {c : Context} {name : String} (off : ¬(c.severity name).isSome = true) :
    c.findingsOf name = [] := by
  unfold findingsOf
  rw [Option.not_isSome_iff_eq_none.1 off]
  cases Rule.ofLabel? name <;> rfl

theorem mapM_runRule_eq {c : Context} (owned : c.Owned) (rules : List String) :
    (rules.filter fun r => (c.severity r).isSome).mapM c.runRule =
      match rules.find? c.isUnknown with
      | some name => .error (.unknownRule name)
      | none => .ok ((rules.filter fun r => (c.severity r).isSome).map c.findingsOf) := by
  induction rules with
  | nil => rfl
  | cons r rules ih =>
    by_cases on : (c.severity r).isSome = true
    · rw [List.filter_cons, if_pos on, List.mapM_cons, runRule_eq owned on, ih]
      by_cases unknown : c.isUnknown r = true
      · rw [if_pos unknown, List.find?_cons_of_pos unknown]
        rfl
      · rw [if_neg unknown, List.find?_cons_of_neg unknown]
        cases rules.find? c.isUnknown <;> rfl
    · have known : ¬c.isUnknown r = true := by simp [isUnknown, on]
      rw [List.filter_cons, if_neg on, ih, List.find?_cons_of_neg known]

/-- **The analysis**: the first name that is no rule is an error, else the findings of the rules in canonical order. -/
theorem analyze_eq {c : Context} (owned : c.Owned) (rules : List String) :
    c.analyze rules =
      match rules.find? c.isUnknown with
      | some name => .error (.unknownRule name)
      | none => .ok (Issue.canonical (rules.flatMap c.findingsOf)) := by
  have flat : ((rules.filter fun r => (c.severity r).isSome).map c.findingsOf).flatten = rules.flatMap c.findingsOf := by
    induction rules with
    | nil => rfl
    | cons r rules ih =>
      by_cases on : (c.severity r).isSome = true
      · rw [List.filter_cons, if_pos on, List.map_cons, List.flatten_cons, ih, List.flatMap_cons]
      · rw [List.filter_cons, if_neg on, ih, List.flatMap_cons, findingsOf_off on, List.nil_append]
  rw [analyze, mapM_runRule_eq owned, ← flat]
  cases rules.find? c.isUnknown <;> rfl

end Context

/-! ## Uses -/

/-- A reference may mean a member of the classes for which `P` holds. -/
def Reference.Means (r : Reference) (P : String → Prop) : Prop :=
  match r.parent with
  | none => True
  | some p => p = "parent" ∨ P (Text.lower p)

namespace Context

/-- A known name of the kinds, spelled like `name`, may mean a member of the classes for which `P` holds. -/
def Accesses (c : Context) (kinds : List ReferenceKind) (spelling : String → String) (name : String)
    (P : String → Prop) : Prop :=
  ∃ r ∈ c.references, r.kind ∈ kinds ∧ r.isDynamic = false ∧ spelling r.name = spelling name ∧ r.Means P

/-- The class name `n` is used outside the class `fqn`. -/
def Names (c : Context) (n fqn : String) : Prop := ∃ r ∈ c.references, n ∈ r.classNames ∧ r.isInside fqn = false

/-- The class name `n` is extended outside the class `fqn`. -/
def Extends (c : Context) (n fqn : String) : Prop :=
  ∃ r ∈ c.references, n ∈ r.classNames ∧ r.kind = .extension ∧ r.isInside fqn = false

theorem meansMemberOf_iff {family : List String} {r : Reference} :
    meansMemberOf family r = true ↔ r.Means (· ∈ family) := by
  unfold meansMemberOf Reference.Means
  cases r.parent <;> simp

theorem meansMember_iff {c : Context} {kinds : List ReferenceKind} {spelling : String → String} {s : Symbol} :
    c.meansMember kinds spelling s = true ↔
      c.Accesses kinds spelling s.name (· ∈ c.table.family (s.owner.getD "")) := by
  simp only [meansMember, List.any_eq_true, List.mem_filter, mem_referencesOf, beq_iff_eq, meansMemberOf_iff,
    Bool.false_eq_true, false_or]
  exact ⟨fun ⟨r, ⟨⟨h, kind, known⟩, name⟩, means⟩ => ⟨r, h, kind, known, name, means⟩,
    fun ⟨r, h, kind, known, name, means⟩ => ⟨r, ⟨⟨h, kind, known⟩, name⟩, means⟩⟩

theorem isReferenced_iff {c : Context} {s : Symbol} :
    (ClassUsage.of c).isReferenced s = true ↔
      c.Names (Text.lower s.fqn) s.fqn ∨ (s.space.isEmpty = false ∧ c.Names (Text.lower s.name) s.fqn) := by
  simp only [ClassUsage.isReferenced, ClassUsage.of, Names, List.any_flatMap, List.any_map, List.any_eq_true,
    Function.comp_def, Bool.and_eq_true, Bool.or_eq_true, beq_iff_eq, Bool.not_eq_true']
  constructor
  · rintro ⟨r, h, n, named, rfl | ⟨space, rfl⟩, outside⟩
    · exact Or.inl ⟨r, h, named, outside⟩
    · exact Or.inr ⟨space, r, h, named, outside⟩
  · rintro (⟨r, h, named, outside⟩ | ⟨space, r, h, named, outside⟩)
    · exact ⟨r, h, _, named, Or.inl rfl, outside⟩
    · exact ⟨r, h, _, named, Or.inr ⟨space, rfl⟩, outside⟩

theorem hasSubclass_iff {c : Context} {s : Symbol} :
    (ClassUsage.of c).hasSubclass s = true ↔ c.Extends (Text.lower s.fqn) s.fqn := by
  simp only [ClassUsage.hasSubclass, ClassUsage.of, Extends, List.any_flatMap, List.any_map, List.any_eq_true,
    Function.comp_def, Bool.and_eq_true, beq_iff_eq, Bool.not_eq_true']
  constructor
  · rintro ⟨r, h, n, named, ⟨rfl, kind⟩, outside⟩
    exact ⟨r, h, named, kind, outside⟩
  · rintro ⟨r, h, named, kind, outside⟩
    exact ⟨r, h, _, named, ⟨rfl, kind⟩, outside⟩

theorem mem_calledFunctions {c : Context} {n : String} :
    n ∈ c.calledFunctions ↔ ∃ r ∈ c.references, r.kind = .functionCall ∧ r.isDynamic = false ∧
      (n = Text.lower r.name ∨ n = Text.lower r.shortName) := by
  simp [calledFunctions, mem_referencesOf, and_assoc]

theorem mem_readConstants {c : Context} {n : String} :
    n ∈ c.readConstants ↔ ∃ r ∈ c.references, r.kind = .constant ∧ r.isDynamic = false ∧
      (n = r.name ∨ n = r.shortName) := by
  simp [readConstants, mem_referencesOf, and_assoc]

end Context

namespace Rule

theorem mem_namesUsedIn {c : Context} {file n : String} :
    n ∈ namesUsedIn c file ↔ ∃ r ∈ c.references, r.file = file ∧ r.isDynamic = false ∧ r.kind.isImport = false ∧
      n ∈ Text.lower r.name :: r.parent?.toList.map Text.lower := by
  simp only [namesUsedIn, Context.referencesIn, List.mem_flatMap, List.mem_filter, Bool.and_eq_true, Bool.not_eq_true',
    beq_iff_eq, and_assoc]

theorem mem_usedPackages {c : Context} {d : Dependencies} {n : String} :
    n ∈ usedPackages c d ↔ ∃ r ∈ c.references, needsPackage r = true ∧ n ∈ packagesOf d.namespaces r := by
  simp only [usedPackages, List.mem_eraseDups, List.mem_flatMap, List.mem_filter, and_assoc]

end Rule
end DeadCode
