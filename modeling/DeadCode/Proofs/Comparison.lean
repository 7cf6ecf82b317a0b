import DeadCode.Proofs.Verdicts

/-!
# Comparing two analyses

`c.Laxer c'` says that `c'` judges the same code as `c` and holds at least as much against a report, references aside;
`rule.Shows c c'` says that every use which the rule looks for in `c` is also seen in `c'`. That is so if each reference
that the rule may look for is read like one of `c'` (`shows_of_readsAs`). Each rule is antitone in both, so under the two
every key that `c'` reports is reported by `c` (`mem_findings_of_laxer`). Statements about two contexts follow from this
one by choosing the pair, in one direction or in both.
-/

namespace DeadCode
set_option autoImplicit false

namespace Symbol

/-- The same symbol, or the same with the mark of frameworks set. -/
def MarkedAs (s s' : Symbol) : Prop :=
  s' = s ∨ s' = { s with metadata := Assoc.set s.metadata Context.frameworkMark (.bool true) }

variable {s s' : Symbol}

theorem MarkedAs.metadata_only (h : s.MarkedAs s') : ∃ m, s' = { s with metadata := m } := by
  rcases h with rfl | rfl
  · exact ⟨_, rfl⟩
  · exact ⟨_, rfl⟩

theorem MarkedAs.hasMark_of_ne (h : s.MarkedAs s') (key : String) (ne : key ≠ Context.frameworkMark) :
    s'.hasMark key = s.hasMark key := by
  rcases h with rfl | rfl
  · rfl
  · simp only [hasMark, Assoc.get?_set_of_ne _ _ ne]

theorem MarkedAs.hasMark_mono (h : s.MarkedAs s') (marked : s.hasMark Context.frameworkMark = true) :
    s'.hasMark Context.frameworkMark = true := by
  rcases h with rfl | rfl
  · exact marked
  · simp [hasMark, Json.isSet]

end Symbol

namespace Context

/-- The second context judges the same symbols, imports and packages as the first or fewer, and has every mark, pattern
and entry point of the first. -/
structure Laxer (c c' : Context) : Prop where
  judged : ∀ s' ∈ c'.table.symbols, ∃ s ∈ c.table.symbols, s.MarkedAs s'
  kept : ∀ s ∈ c.table.symbols, ∃ s' ∈ c'.table.symbols, s.MarkedAs s'
  imports : ∀ e' ∈ c'.imports, ∀ u ∈ e'.2, ∃ e ∈ c.imports, e.1 = e'.1 ∧ u ∈ e.2
  dependencies : ∀ d' ∈ c'.dependencies, ∃ d ∈ c.dependencies,
    d'.file = d.file ∧ d'.namespaces = d.namespaces ∧ d'.packages ⊆ d.packages
  rules : c'.settings.rules = c.settings.rules
  publicMethods : c'.settings.checkPublicMethods = c.settings.checkPublicMethods
  publicConstants : c'.settings.checkPublicConstants = c.settings.checkPublicConstants
  root : c'.root = c.root
  ignorePatterns : c.ignorePatterns ⊆ c'.ignorePatterns
  ignorePaths : c.ignorePaths ⊆ c'.ignorePaths
  entrySymbols : c.entrySymbols ⊆ c'.entrySymbols
  entryFiles : c.settings.entryPoints ++ c.entryFiles ⊆ c'.settings.entryPoints ++ c'.entryFiles
  ignoreDependencies : c.settings.ignoreDependencies ⊆ c'.settings.ignoreDependencies

/-- Every class that is named or extended in the first context is so in the second one. -/
structure ShowsClasses (c c' : Context) : Prop where
  named : ∀ n fqn, c.Names n fqn → c'.Names n fqn
  extended : ∀ n fqn, c.Extends n fqn → c'.Extends n fqn

/-- Every access to members by names of the kinds in the first context is one in the second. -/
def ShowsMembers (kinds : List ReferenceKind) (spelling : String → String) (c c' : Context) : Prop :=
  ∀ name P, c.Accesses kinds spelling name P → c'.Accesses kinds spelling name P

end Context

/-- Every use that the rule looks for in the first context is seen in the second. -/
def Rule.Shows (rule : Rule) (c c' : Context) : Prop :=
  match rule with
  | classes | interfaces | traits => c.ShowsClasses c'
  | functions => c.calledFunctions ⊆ c'.calledFunctions
  | methods => Context.ShowsMembers [.methodCall, .staticCall] Text.lower c c'
  | properties => Context.ShowsMembers [.propertyAccess, .staticProperty] id c c'
  | constants => c.readConstants ⊆ c'.readConstants ∧ Context.ShowsMembers [.classConstantAccess] id c c'
  | imports => ∀ file, namesUsedIn c file ⊆ namesUsedIn c' file
  | files => c.ShowsClasses c' ∧ c.calledFunctions ⊆ c'.calledFunctions ∧ c.readConstants ⊆ c'.readConstants
  | dependencies => ∀ d d' : Dependencies, d'.namespaces = d.namespaces → usedPackages c d ⊆ usedPackages c' d'

/-- The second reference tells every rule what the first one tells it. -/
structure Reference.ReadsAs (r r' : Reference) : Prop where
  kind : r'.kind = r.kind
  file : r'.file = r.file
  isDynamic : r'.isDynamic = r.isDynamic
  name : Text.lower r'.name = Text.lower r.name
  shortName : Text.lower r'.shortName = Text.lower r.shortName
  spelled : r.kind ∈ [.propertyAccess, .staticProperty, .classConstantAccess, .constant] → r'.name = r.name
  parent : r'.parent?.map Text.lower = r.parent?.map Text.lower
  means : ∀ P, r'.Means P ↔ r.Means P
  isInside : ∀ fqn, r'.isInside fqn = r.isInside fqn
  classNames : r'.classNames = r.classNames
  packages : ∀ m, Rule.packagesOf m r' = Rule.packagesOf m r

namespace Reference.ReadsAs

theorem refl (r : Reference) : r.ReadsAs r :=
  ⟨rfl, rfl, rfl, rfl, rfl, fun _ => rfl, rfl, fun _ => .rfl, fun _ => rfl, rfl, fun _ => rfl⟩

theorem symm {r r' : Reference} (same : r.ReadsAs r') : r'.ReadsAs r where
  kind := same.kind.symm
  file := same.file.symm
  isDynamic := same.isDynamic.symm
  name := same.name.symm
  shortName := same.shortName.symm
  spelled := fun kind => (same.spelled (same.kind ▸ kind)).symm
  parent := same.parent.symm
  means := fun P => (same.means P).symm
  isInside := fun fqn => (same.isInside fqn).symm
  classNames := same.classNames.symm
  packages := fun m => (same.packages m).symm

end Reference.ReadsAs

namespace Rule

/-- May the reference be a use that the rule looks for? A name computed at run time never is, but the class that it is
looked up in is one for the rules that ask for uses of classes. -/
def Reads (rule : Rule) (r : Reference) : Prop :=
  r.isDynamic = false ∨
    rule ∈ [classes, interfaces, traits, files] ∧ r.kind.namesOwner = true ∧ r.parent?.isSome = true

variable {c c' : Context} {rule : Rule}

theorem reads_of_mem_classNames (about : rule ∈ [classes, interfaces, traits, files]) {r : Reference} {n : String}
    (named : n ∈ r.classNames) : rule.Reads r := by
  rw [Reference.classNames, List.mem_append] at named
  rcases named with own | owner
  · by_cases known : (r.kind.namesClass && !r.isDynamic) = true
    · simp only [Bool.and_eq_true, Bool.not_eq_true'] at known
      exact Or.inl known.2
    · rw [if_neg known] at own
      cases own
  · by_cases names : r.kind.namesOwner = true
    · refine Or.inr ⟨about, names, ?_⟩
      cases parent : r.parent? with
      | none => simp [names, parent] at owner
      | some p => rfl
    · rw [if_neg names] at owner
      cases owner

section Shows

variable (h : ∀ r ∈ c.references, rule.Reads r → ∃ r' ∈ c'.references, r.ReadsAs r')
include h

theorem showsClasses_of_readsAs (about : rule ∈ [classes, interfaces, traits, files]) : c.ShowsClasses c' where
  named := by
    rintro n fqn ⟨r, given, named, outside⟩
    obtain ⟨r', given', same⟩ := h r given (reads_of_mem_classNames about named)
    exact ⟨r', given', same.classNames ▸ named, (same.isInside fqn).trans outside⟩
  extended := by
    rintro n fqn ⟨r, given, named, kind, outside⟩
    obtain ⟨r', given', same⟩ := h r given (reads_of_mem_classNames about named)
    exact ⟨r', given', same.classNames ▸ named, same.kind.trans kind, (same.isInside fqn).trans outside⟩

theorem showsMembers_of_readsAs {kinds : List ReferenceKind} {spelling : String → String}
    (spelled : ∀ r r' : Reference, r.ReadsAs r' → r.kind ∈ kinds → spelling r'.name = spelling r.name) :
    Context.ShowsMembers kinds spelling c c' := by
  rintro name P ⟨r, given, kind, known, own, means⟩
  obtain ⟨r', given', same⟩ := h r given (Or.inl known)
  exact ⟨r', given', same.kind ▸ kind, same.isDynamic.trans known, (spelled r r' same kind).trans own,
    (same.means P).2 means⟩

theorem calledFunctions_of_readsAs : c.calledFunctions ⊆ c'.calledFunctions := by
  intro n called
  obtain ⟨r, given, kind, known, name⟩ := Context.mem_calledFunctions.1 called
  obtain ⟨r', given', same⟩ := h r given (Or.inl known)
  refine Context.mem_calledFunctions.2 ⟨r', given', same.kind.trans kind, same.isDynamic.trans known, ?_⟩
  rw [same.name, same.shortName]
  exact name

theorem readConstants_of_readsAs : c.readConstants ⊆ c'.readConstants := by
  intro n read
  obtain ⟨r, given, kind, known, name⟩ := Context.mem_readConstants.1 read
  obtain ⟨r', given', same⟩ := h r given (Or.inl known)
  refine Context.mem_readConstants.2 ⟨r', given', same.kind.trans kind, same.isDynamic.trans known, ?_⟩
  rw [Reference.shortName, same.spelled (by simp [kind])]
  exact name

/-- If each reference that a rule may look for is read like one of the other context, every use is seen there. -/
theorem shows_of_readsAs : rule.Shows c c' := by
  cases rule with
  | classes => exact showsClasses_of_readsAs h (by simp)
  | interfaces => exact showsClasses_of_readsAs h (by simp)
  | traits => exact showsClasses_of_readsAs h (by simp)
  | functions => exact calledFunctions_of_readsAs h
  | methods => exact showsMembers_of_readsAs h fun _ _ same _ => same.name
  | properties =>
    refine showsMembers_of_readsAs h fun _ _ same kind => same.spelled ?_
    simp only [List.mem_cons, List.not_mem_nil, or_false] at kind ⊢
    tauto
  | constants =>
    refine ⟨readConstants_of_readsAs h, showsMembers_of_readsAs h fun _ _ same kind => same.spelled ?_⟩
    simp [List.mem_singleton.1 kind]
  | imports =>
    intro file n used
    obtain ⟨r, given, place, known, kind, name⟩ := mem_namesUsedIn.1 used
    obtain ⟨r', given', same⟩ := h r given (Or.inl known)
    have parents : r'.parent?.toList.map Text.lower = r.parent?.toList.map Text.lower := by
      rw [← Option.toList_map, ← Option.toList_map, same.parent]
    refine mem_namesUsedIn.2 ⟨r', given', same.file.trans place, same.isDynamic.trans known, ?_, ?_⟩
    · rw [same.kind, kind]
    · rw [same.name, parents]
      exact name
  | files => exact ⟨showsClasses_of_readsAs h (by simp), calledFunctions_of_readsAs h, readConstants_of_readsAs h⟩
  | dependencies =>
    intro d d' namespaces n used
    obtain ⟨r, given, needs, package⟩ := mem_usedPackages.1 used
    have known : r.isDynamic = false := by
      simp only [needsPackage, Bool.and_eq_true, Bool.not_eq_true'] at needs
      exact needs.2
    obtain ⟨r', given', same⟩ := h r given (Or.inl known)
    refine mem_usedPackages.2 ⟨r', given', ?_, ?_⟩
    · simpa only [needsPackage, same.kind, same.isDynamic] using needs
    · rw [namespaces, same.packages]
      exact package

end Shows

/-- References that are all among those of another context show every use there. -/
theorem shows_of_subset (h : c.references ⊆ c'.references) (rule : Rule) : rule.Shows c c' :=
  shows_of_readsAs fun r given _ => ⟨r, h given, .refl r⟩

end Rule

namespace Context.Laxer

variable {c c' : Context} {s s' : Symbol}

/-! ## What spares a symbol in the first context spares it in the second -/

theorem relativePath_eq (lax : c.Laxer c') (file : String) : c'.relativePath file = c.relativePath file := by
  simp only [relativePath, lax.root]

theorem matchesIgnore_mono (lax : c.Laxer c') {fqn : String} (h : c.matchesIgnore fqn = true) :
    c'.matchesIgnore fqn = true := by
  obtain ⟨p, given, accepts⟩ := List.any_eq_true.1 h
  exact List.any_eq_true.2 ⟨p, lax.ignorePatterns given, accepts⟩

theorem isPathIgnored_mono (lax : c.Laxer c') {file : String} (h : c.isPathIgnored file = true) :
    c'.isPathIgnored file = true := by
  obtain ⟨p, given, accepts⟩ := List.any_eq_true.1 h
  exact List.any_eq_true.2 ⟨p, lax.ignorePaths given, by rwa [lax.relativePath_eq]⟩

theorem isEntryFile_mono (lax : c.Laxer c') {file : String} (h : c.isEntryFile file = true) :
    c'.isEntryFile file = true := by
  obtain ⟨p, given, accepts⟩ := List.any_eq_true.1 h
  refine List.any_eq_true.2 ⟨p, ?_, by rwa [lax.relativePath_eq]⟩
  rw [List.append_assoc] at given ⊢
  rcases List.mem_append.1 given with always | own
  · exact List.mem_append_left _ always
  · exact List.mem_append_right _ (lax.entryFiles own)

theorem isEntrySymbol_mono (lax : c.Laxer c') {fqn : String} (h : c.isEntrySymbol fqn = true) :
    c'.isEntrySymbol fqn = true := by
  obtain ⟨e, given, names⟩ := List.any_eq_true.1 h
  exact List.any_eq_true.2 ⟨e, lax.entrySymbols given, names⟩

theorem isIgnored_mono (lax : c.Laxer c') (marked : s.MarkedAs s') (rule : String) (h : c.isIgnored s rule = true) :
    c'.isIgnored s' rule = true := by
  obtain ⟨m, rfl⟩ := marked.metadata_only
  simp only [isIgnored, Bool.or_eq_true] at h ⊢
  rcases h with ((own | pattern) | owner) | path
  · exact Or.inl (Or.inl (Or.inl own))
  · exact Or.inl (Or.inl (Or.inr (lax.matchesIgnore_mono pattern)))
  · refine Or.inl (Or.inr ?_)
    change (s.owner?.map c'.matchesIgnore).getD false = true
    cases named : s.owner? with
    | none => simp [named] at owner
    | some o => exact lax.matchesIgnore_mono (by simpa [named] using owner)
  · exact Or.inr (lax.isPathIgnored_mono path)

theorem isClassLive_mono (lax : c.Laxer c') (shows : c.ShowsClasses c') (marked : s.MarkedAs s')
    (h : c.isClassLive (ClassUsage.of c) s = true) : c'.isClassLive (ClassUsage.of c') s' = true := by
  have mark := marked.hasMark_mono
  obtain ⟨m, rfl⟩ := marked.metadata_only
  simp only [isClassLive, Bool.or_eq_true, Bool.and_eq_true, isReferenced_iff, hasSubclass_iff] at h ⊢
  rcases h with ((named | extended) | flagged) | entry
  · exact Or.inl (Or.inl (Or.inl (named.imp (shows.named _ _) (And.imp_right (shows.named _ _)))))
  · exact Or.inl (Or.inl (Or.inr (extended.imp_right (shows.extended _ _))))
  · exact Or.inl (Or.inr (mark flagged))
  · exact Or.inr (lax.isEntrySymbol_mono entry)

theorem isFunctionLive_mono (lax : c.Laxer c') (shows : c.calledFunctions ⊆ c'.calledFunctions)
    (marked : s.MarkedAs s') (h : c.isFunctionLive c.calledFunctions s = true) :
    c'.isFunctionLive c'.calledFunctions s' = true := by
  have mark := marked.hasMark_mono
  obtain ⟨m, rfl⟩ := marked.metadata_only
  simp only [isFunctionLive, Bool.or_eq_true, List.contains_iff_mem] at h ⊢
  rcases h with ((full | short) | flagged) | entry
  · exact Or.inl (Or.inl (Or.inl (shows full)))
  · exact Or.inl (Or.inl (Or.inr (shows short)))
  · exact Or.inl (Or.inr (mark flagged))
  · exact Or.inr (lax.isEntrySymbol_mono entry)

theorem isConstantLive_mono (lax : c.Laxer c') (shows : c.readConstants ⊆ c'.readConstants)
    (marked : s.MarkedAs s') (h : c.isConstantLive c.readConstants s = true) :
    c'.isConstantLive c'.readConstants s' = true := by
  obtain ⟨m, rfl⟩ := marked.metadata_only
  simp only [isConstantLive, Bool.or_eq_true, List.contains_iff_mem] at h ⊢
  rcases h with (full | short) | entry
  · exact Or.inl (Or.inl (shows full))
  · exact Or.inl (Or.inr (shows short))
  · exact Or.inr (lax.isEntrySymbol_mono entry)

theorem mem_edges_iff (lax : c.Laxer c') (e : String × String) : e ∈ c.table.edges ↔ e ∈ c'.table.edges := by
  rw [SymbolTable.mem_edges_iff_buildsOn, SymbolTable.mem_edges_iff_buildsOn]
  constructor
  · rintro ⟨s, given, edge⟩
    obtain ⟨s', given', marked⟩ := lax.kept s given
    obtain ⟨m, rfl⟩ := marked.metadata_only
    exact ⟨_, given', edge⟩
  · rintro ⟨s', given', edge⟩
    obtain ⟨s, given, marked⟩ := lax.judged s' given'
    obtain ⟨m, rfl⟩ := marked.metadata_only
    exact ⟨_, given, edge⟩

theorem meansMember_mono (lax : c.Laxer c') {kinds : List ReferenceKind} {spelling : String → String}
    (shows : ShowsMembers kinds spelling c c') (marked : s.MarkedAs s')
    (h : c.meansMember kinds spelling s = true) : c'.meansMember kinds spelling s' = true := by
  obtain ⟨m, rfl⟩ := marked.metadata_only
  have family : (· ∈ c.table.family (s.owner.getD "")) = (· ∈ c'.table.family (s.owner.getD "")) :=
    funext fun _ => propext (SymbolTable.mem_family_congr lax.mem_edges_iff)
  have used := shows _ _ (meansMember_iff.1 h)
  rw [family] at used
  exact meansMember_iff.2 used

theorem isFrameworkClass_mono (lax : c.Laxer c') {owner : Option String} (h : c.isFrameworkClass owner = true) :
    c'.isFrameworkClass owner = true := by
  cases owner with
  | none => exact h
  | some o =>
    simp only [isFrameworkClass, SymbolTable.get_eq_filter, List.any_filter, List.any_eq_true, Bool.and_eq_true] at h ⊢
    obtain ⟨s, given, name, flagged⟩ := h
    obtain ⟨s', given', marked⟩ := lax.kept s given
    have mark := marked.hasMark_mono flagged
    obtain ⟨m, rfl⟩ := marked.metadata_only
    exact ⟨_, given', name, mark⟩

theorem judgesMethod_antitone (lax : c.Laxer c') (marked : s.MarkedAs s') (h : Rule.judgesMethod c' s' = true) :
    Rule.judgesMethod c s = true := by
  have ignored := mt (lax.isIgnored_mono marked Rule.methods.label)
  obtain ⟨m, rfl⟩ := marked.metadata_only
  simp only [Rule.judgesMethod, lax.publicMethods, Bool.and_eq_true, Bool.not_eq_true', ← Bool.not_eq_true] at h ⊢
  obtain ⟨⟨shape, spared⟩, free⟩ := h
  exact ⟨⟨shape, ignored spared⟩, fun ⟨isPublic, framework⟩ => free ⟨isPublic, lax.isFrameworkClass_mono framework⟩⟩

theorem judgesConstant_antitone (lax : c.Laxer c') (marked : s.MarkedAs s') (h : Rule.judgesConstant c' s' = true) :
    Rule.judgesConstant c s = true := by
  have ignored := mt (lax.isIgnored_mono marked Rule.constants.label)
  have enumCase := marked.hasMark_of_ne "enum_case" (by decide)
  obtain ⟨m, rfl⟩ := marked.metadata_only
  simp only [Rule.judgesConstant, enumCase, lax.publicConstants, Bool.and_eq_true, Bool.not_eq_true',
    ← Bool.not_eq_true] at h ⊢
  exact ⟨h.1, ignored h.2⟩

/-! ## What the second context reports the first one reports -/

theorem class_unused_antitone (lax : c.Laxer c') (shows : c.ShowsClasses c') (marked : s.MarkedAs s') (rule : String)
    (h : (!c'.isIgnored s' rule && !c'.isClassLive (ClassUsage.of c') s') = true) :
    (!c.isIgnored s rule && !c.isClassLive (ClassUsage.of c) s) = true := by
  simp only [Bool.and_eq_true, Bool.not_eq_true', ← Bool.not_eq_true] at h ⊢
  exact h.imp (mt (lax.isIgnored_mono marked _)) (mt (lax.isClassLive_mono shows marked))

/-- Each rule about symbols is antitone. -/
theorem isUnused_antitone (lax : c.Laxer c') {rule : Rule} (shows : rule.Shows c c') (marked : s.MarkedAs s')
    (h : rule.isUnused c' s' = true) : rule.isUnused c s = true := by
  cases rule with
  | classes => exact lax.class_unused_antitone shows marked _ h
  | interfaces => exact lax.class_unused_antitone shows marked _ h
  | traits => exact lax.class_unused_antitone shows marked _ h
  | functions =>
    simp only [Rule.isUnused, Bool.and_eq_true, Bool.not_eq_true', ← Bool.not_eq_true] at h ⊢
    exact h.imp (mt (lax.isIgnored_mono marked _)) (mt (lax.isFunctionLive_mono shows marked))
  | methods =>
    simp only [Rule.isUnused, Bool.and_eq_true, Bool.not_eq_true', ← Bool.not_eq_true] at h ⊢
    exact h.imp (lax.judgesMethod_antitone marked) (mt (lax.meansMember_mono shows marked))
  | properties =>
    have ignored := mt (lax.isIgnored_mono marked Rule.properties.label)
    have unmeant := mt (lax.meansMember_mono shows marked)
    obtain ⟨m, rfl⟩ := marked.metadata_only
    simp only [Rule.isUnused, Bool.and_eq_true, Bool.not_eq_true', ← Bool.not_eq_true] at h ⊢
    exact h.imp (And.imp_right ignored) unmeant
  | constants =>
    have global := mt (lax.isConstantLive_mono shows.1 marked)
    have unmeant := mt (lax.meansMember_mono shows.2 marked)
    simp only [Rule.isUnused, Bool.and_eq_true, Bool.not_eq_true', ← Bool.not_eq_true] at h ⊢
    refine h.imp (lax.judgesConstant_antitone marked) fun dead => ?_
    obtain ⟨m, rfl⟩ := marked.metadata_only
    by_cases kind : (s.kind == .globalConstant) = true
    · simp only [kind, if_true] at dead ⊢
      exact global dead
    · simp only [kind] at dead ⊢
      exact unmeant dead
  | imports => cases h
  | files => cases h
  | dependencies => cases h

theorem keepsFile_mono (lax : c.Laxer c') (shows : Rule.files.Shows c c') (marked : s.MarkedAs s')
    (h : Rule.keepsFile c (ClassUsage.of c) c.calledFunctions c.readConstants s = true) :
    Rule.keepsFile c' (ClassUsage.of c') c'.calledFunctions c'.readConstants s' = true := by
  have class_ := lax.isClassLive_mono shows.1 marked
  have function := lax.isFunctionLive_mono shows.2.1 marked
  have constant := lax.isConstantLive_mono shows.2.2 marked
  obtain ⟨m, rfl⟩ := marked.metadata_only
  simp only [Rule.keepsFile, Bool.or_eq_true] at h ⊢
  rcases h with (own | pattern) | live
  · exact Or.inl (Or.inl own)
  · exact Or.inl (Or.inr (lax.matchesIgnore_mono pattern))
  · refine Or.inr ?_
    by_cases classLike : s.kind.isClassLike = true
    · simp only [classLike, if_true] at live ⊢
      exact class_ live
    · by_cases isFunction : (s.kind == .function) = true
      · simp only [classLike, isFunction, if_true] at live ⊢
        exact function live
      · simp only [classLike, isFunction] at live ⊢
        exact constant live

theorem isImportUsed_mono {used used' : List String} (h : used ⊆ used') {u : Import}
    (live : Rule.isImportUsed used u = true) : Rule.isImportUsed used' u = true := by
  obtain ⟨n, given, fits⟩ := List.any_eq_true.1 live
  exact List.any_eq_true.2 ⟨n, h given, fits⟩

variable {severity : Severity} {k : Issue.Key}

theorem mem_checkImports_of_laxer (lax : c.Laxer c') (shows : Rule.imports.Shows c c')
    (h : k ∈ (Rule.checkImports c' severity).map Issue.key) : k ∈ (Rule.checkImports c severity).map Issue.key := by
  rw [Rule.mem_checkImports] at h ⊢
  obtain ⟨e', given', path, u, listed', unused, pattern, rfl⟩ := h
  obtain ⟨e, given, file, listed⟩ := lax.imports e' given' u listed'
  simp only [← Bool.not_eq_true] at path unused pattern ⊢
  rw [← file] at path unused ⊢
  exact ⟨e, given, mt lax.isPathIgnored_mono path, u, listed, mt (isImportUsed_mono (shows _)) unused,
    mt lax.matchesIgnore_mono pattern, rfl⟩

theorem mem_checkFiles_of_laxer (lax : c.Laxer c') (shows : Rule.files.Shows c c')
    (h : k ∈ (Rule.checkFiles c' severity).map Issue.key) : k ∈ (Rule.checkFiles c severity).map Issue.key := by
  rw [Rule.mem_checkFiles] at h ⊢
  obtain ⟨file, entry, path, ⟨s', given', at_, top⟩, unused, rfl⟩ := h
  obtain ⟨s, given, marked⟩ := lax.judged s' given'
  obtain ⟨m, rfl⟩ := marked.metadata_only
  simp only [← Bool.not_eq_true] at entry path unused ⊢
  refine ⟨file, mt lax.isEntryFile_mono entry, mt lax.isPathIgnored_mono path, ⟨s, given, at_, top⟩, ?_,
    by rw [lax.relativePath_eq]⟩
  intro t given at_ top kept
  obtain ⟨t', given', marked⟩ := lax.kept t given
  have kept' := lax.keepsFile_mono shows marked kept
  obtain ⟨m, rfl⟩ := marked.metadata_only
  exact unused _ given' at_ top kept'

theorem mem_checkDependencies_of_laxer (lax : c.Laxer c') (shows : Rule.dependencies.Shows c c')
    (h : k ∈ (Rule.checkDependencies c' severity).map Issue.key) :
    k ∈ (Rule.checkDependencies c severity).map Issue.key := by
  rw [Rule.mem_checkDependencies] at h ⊢
  obtain ⟨d', given', p, listed, unused, ignored, rfl⟩ := h
  obtain ⟨d, given, file, namespaces, packages⟩ := lax.dependencies d' given'
  refine ⟨d, given, p, packages listed, fun used => unused (shows d d' namespaces used), ?_, by rw [file]⟩
  rw [← Bool.not_eq_true] at ignored ⊢
  refine mt (fun matched => ?_) ignored
  obtain ⟨pattern, given, accepts⟩ := List.any_eq_true.1 matched
  exact List.any_eq_true.2 ⟨pattern, lax.ignoreDependencies given, accepts⟩

/-- **Comparison**: every key that a rule reports in the laxer context it reports in the other one. -/
theorem mem_findings_of_laxer (lax : c.Laxer c') {rule : Rule} (shows : rule.Shows c c')
    (h : k ∈ (rule.findings c' severity).map Issue.key) : k ∈ (rule.findings c severity).map Issue.key := by
  have symbols : k ∈ (rule.symbolFindings c' severity).map Issue.key →
      k ∈ (rule.symbolFindings c severity).map Issue.key := by
    simp only [Rule.mem_symbolFindings]
    rintro ⟨s', given', kind, unused, rfl⟩
    obtain ⟨s, given, marked⟩ := lax.judged s' given'
    have dead := lax.isUnused_antitone shows marked unused
    obtain ⟨m, rfl⟩ := marked.metadata_only
    exact ⟨s, given, kind, dead, rfl⟩
  cases rule with
  | imports => exact lax.mem_checkImports_of_laxer shows h
  | files => exact lax.mem_checkFiles_of_laxer shows h
  | dependencies => exact lax.mem_checkDependencies_of_laxer shows h
  | _ => exact symbols h

theorem severity_eq (lax : c.Laxer c') (rule : String) : c'.severity rule = c.severity rule := by
  simp only [severity, Settings.severity, lax.rules]

theorem isUnknown_eq (lax : c.Laxer c') : c'.isUnknown = c.isUnknown := by
  funext name
  simp only [isUnknown, lax.severity_eq]

theorem mem_flatMap_findingsOf (lax : c.Laxer c') (shows : ∀ rule : Rule, rule.Shows c c') {rules : List String}
    (h : k ∈ (rules.flatMap c'.findingsOf).map Issue.key) : k ∈ (rules.flatMap c.findingsOf).map Issue.key := by
  simp only [List.map_flatMap, List.mem_flatMap] at h ⊢
  obtain ⟨name, given, found⟩ := h
  refine ⟨name, given, ?_⟩
  simp only [findingsOf, lax.severity_eq] at found ⊢
  cases known : Rule.ofLabel? name with
  | none => simp [known] at found
  | some rule =>
    cases on : c.severity name with
    | none => simp [known, on] at found
    | some severity =>
      simp only [known, on] at found ⊢
      exact lax.mem_findings_of_laxer (shows rule) found

theorem owned (lax : c.Laxer c') (owned : c.Owned) : c'.Owned := by
  intro s' given' member
  obtain ⟨s, given, marked⟩ := lax.judged s' given'
  obtain ⟨m, rfl⟩ := marked.metadata_only
  exact owned s given member

end Context.Laxer

/-- Two analyses fail with the same error, or their findings are in the relation. -/
def Context.Outcomes (R : List Issue → List Issue → Prop) :
    Except AnalysisError (List Issue) → Except AnalysisError (List Issue) → Prop
  | .ok found, .ok found' => R found found'
  | .error e, .error e' => e = e'
  | _, _ => False

end DeadCode
