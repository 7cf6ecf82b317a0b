import DeadCode.Proofs.Verdicts

/-!
# Members and the class hierarchy

A method, property or class constant is in use if a reference with its name may mean it. A reference that names a class
means a member of that class or of one that is comparable with it: above it or below it along any path of `extends`,
`implements` and `use`, also through classes that are not declared and around cycles. So a rule about members reports
exactly those that are only accessed by way of unrelated classes, unless a member that it has to judge has no owner: then it
fails and reports none (`mem_reported_iff_unrelated`).
-/

namespace DeadCode
set_option autoImplicit false

namespace Rule

/-- Kinds of the references in which a rule looks for uses of members. -/
def accessKinds : Rule → List ReferenceKind
  | methods => [.methodCall, .staticCall]
  | properties => [.propertyAccess, .staticProperty]
  | constants => [.classConstantAccess]
  | _ => []

/-- The spelling in which names of members are compared. Only those of methods are the same in any case of letters. -/
def spelling : Rule → String → String
  | methods => Text.lower
  | _ => id

/-- May the rule report this member if it finds no use of it? -/
def Eligible (rule : Rule) (c : Context) (m : Symbol) : Prop :=
  match rule with
  | methods =>
    (m.isPrivate = true ∨ c.settings.checkPublicMethods = true) ∧ Text.lower m.name ∉ magicMethods ∧
      m.isAbstract = false ∧ c.isIgnored m methods.label = false ∧
      ¬(m.isPublic = true ∧ c.isFrameworkClass m.owner = true)
  | properties => m.isPrivate = true ∧ c.isIgnored m properties.label = false
  | constants =>
    m.hasMark "enum_case" = false ∧ (m.isPublic = false ∨ c.settings.checkPublicConstants = true) ∧
      c.isIgnored m constants.label = false
  | _ => False

/-- The symbols that a rule reports, in the order of its findings. -/
def reported (rule : Rule) (c : Context) : List Symbol := (c.table.ofKinds rule.kinds).filter (rule.isUnused c)

variable {c : Context} {rule : Rule} {m : Symbol}

theorem mem_kinds_of_memberKind? {kind : SymbolKind} (about : rule.memberKind? = some kind) : kind ∈ rule.kinds := by
  cases rule <;> cases about <;> simp [kinds]

theorem judgesMember_iff_eligible (about : rule.memberKind? = some m.kind) :
    rule.judgesMember c m = true ↔ rule.Eligible c m := by
  cases rule with
  | methods =>
    simp only [judgesMember, judgesMethod, Eligible, Bool.and_eq_true, Bool.or_eq_true, Bool.not_eq_true',
      List.contains_eq_mem, decide_eq_false_iff_not, Bool.and_eq_false_iff, not_and_or, Bool.not_eq_true, and_assoc]
  | properties => simp only [judgesMember, Eligible, Bool.and_eq_true, Bool.not_eq_true']
  | constants =>
    have kind : m.kind = .classConstant := (Option.some.inj about).symm
    simp only [judgesMember, judgesConstant, Eligible, kind, beq_self_eq_true, Bool.true_and, Bool.and_eq_true,
      Bool.not_eq_true', Bool.and_eq_false_iff, Bool.not_eq_false', and_assoc]
  | _ => cases about

theorem isUnused_iff_judgesMember (about : rule.memberKind? = some m.kind) :
    rule.isUnused c m = true ↔
      rule.judgesMember c m = true ∧ ¬c.meansMember rule.accessKinds rule.spelling m = true := by
  cases rule with
  | constants =>
    have kind : m.kind = .classConstant := (Option.some.inj about).symm
    simp [isUnused, judgesMember, accessKinds, spelling, kind]
  | methods => simp [isUnused, judgesMember, accessKinds, spelling]
  | properties => simp [isUnused, judgesMember, accessKinds, spelling]
  | _ => cases about

theorem not_means_family_iff {t : SymbolTable} {r : Reference} {owner : String} :
    ¬r.Means (· ∈ t.family owner) ↔ ∃ p, r.parent = some p ∧ p ≠ "parent" ∧ t.Unrelated p owner := by
  unfold Reference.Means
  cases r.parent with
  | none => simp
  | some p => simp [not_or, SymbolTable.not_mem_family_iff]

/-- No use is seen exactly if every access by the name is to an unrelated class. -/
theorem not_meansMember_iff {owner : String} (owned : m.owner = some owner) :
    ¬c.meansMember rule.accessKinds rule.spelling m = true ↔
      ∀ r ∈ c.references, r.kind ∈ rule.accessKinds → r.isDynamic = false →
        rule.spelling r.name = rule.spelling m.name →
        ∃ p, r.parent = some p ∧ p ≠ "parent" ∧ c.table.Unrelated p owner := by
  rw [Context.meansMember_iff, owned, Option.getD_some]
  simp only [Context.Accesses, not_exists, not_and, not_means_family_iff]

theorem mem_reported_iff (about : rule.memberKind? = some m.kind) (declared : m ∈ c.table.symbols) :
    m ∈ rule.reported c ↔ rule.isUnused c m = true := by
  rw [reported, List.mem_filter, SymbolTable.mem_ofKinds]
  exact and_iff_right ⟨declared, mem_kinds_of_memberKind? about⟩

/-- A rule asks for an owner in vain exactly if a member that it has to judge has none. -/
theorem any_lacksOwner_iff {kind : SymbolKind} (about : rule.memberKind? = some kind) :
    (c.table.ofKinds rule.kinds).any (rule.lacksOwner c) = true ↔
      ∃ m ∈ c.table.symbols, m.kind = kind ∧ rule.Eligible c m ∧ m.owner = none := by
  simp only [List.any_eq_true, SymbolTable.mem_ofKinds, lacksOwner, Bool.and_eq_true, Option.isNone_iff_eq_none]
  constructor
  · rintro ⟨m, ⟨declared, among⟩, judged, none⟩
    have own := memberKind?_of_judgesMember among judged
    exact ⟨m, declared, Option.some.inj (own.symm.trans about), (judgesMember_iff_eligible own).1 judged, none⟩
  · rintro ⟨m, declared, rfl, eligible, none⟩
    exact ⟨m, ⟨declared, mem_kinds_of_memberKind? about⟩, (judgesMember_iff_eligible about).2 eligible, none⟩

/-- A rule about members fails exactly if a member that it has to judge has no owner. -/
theorem check_eq_error_iff {kind : SymbolKind} (about : rule.memberKind? = some kind) {severity : Severity} :
    rule.check c severity = .error .memberWithoutOwner ↔
      ∃ m ∈ c.table.symbols, m.kind = kind ∧ rule.Eligible c m ∧ m.owner = none := by
  rw [check_eq_ite, ← any_lacksOwner_iff about]
  split
  · next faulty => exact iff_of_true rfl faulty
  · next sound => exact iff_of_false (fun failed => nomatch failed) sound

/-- **Members are judged by comparability.** A rule about members fails if and only if a member that it has to judge has no
owner. If all of them have one, its findings are those about the members in `reported`, and a member is there if and only if it
is eligible and every known reference of the rule's kinds with its name is to a class unrelated to its owner. -/
theorem mem_reported_iff_unrelated (c : Context) (rule : Rule) {kind : SymbolKind}
    (about : rule.memberKind? = some kind) (severity : Severity) :
    (rule.check c severity = .error .memberWithoutOwner ↔
      ∃ m ∈ c.table.symbols, m.kind = kind ∧ rule.Eligible c m ∧ m.owner = none) ∧
    ((∀ m ∈ c.table.symbols, m.kind = kind → rule.Eligible c m → m.owner ≠ none) →
      rule.check c severity = .ok ((rule.reported c).map fun m => issueFor rule m (rule.severityFor c severity m)) ∧
      ∀ m ∈ c.table.symbols, m.kind = kind → ∀ owner, m.owner = some owner →
        (m ∈ rule.reported c ↔ rule.Eligible c m ∧
          ∀ r ∈ c.references, r.kind ∈ rule.accessKinds → r.isDynamic = false →
            rule.spelling r.name = rule.spelling m.name →
            ∃ p, r.parent = some p ∧ p ≠ "parent" ∧ c.table.Unrelated p owner)) := by
  refine ⟨check_eq_error_iff about, fun owned => ?_⟩
  have sound : ¬(c.table.ofKinds rule.kinds).any (rule.lacksOwner c) = true := by
    rw [any_lacksOwner_iff about]
    rintro ⟨m, declared, own, eligible, none⟩
    exact owned m declared own eligible none
  rw [check_eq_ite, if_neg sound, findings_eq_symbolFindings (mem_kinds_of_memberKind? about)]
  refine ⟨rfl, ?_⟩
  rintro m declared rfl owner own
  rw [mem_reported_iff about declared, isUnused_iff_judgesMember about, judgesMember_iff_eligible about,
    not_meansMember_iff own]

/-- Two classes with a common base that is not declared. The private method of one is called on the other. -/
def cousins : Context := {
  table := .ofSymbols [
    { kind := .classType, name := "A", parents := ["Base"] },
    { kind := .classType, name := "B", parents := ["BASE"] },
    { kind := .method, name := "run", owner := some "A", visibility := some "private" }]
  references := [{ kind := .staticCall, name := "Run", parent := some "B" }] }

theorem mem_reported_cousins : methods.memberKind? = some .method ∧
    (∀ m ∈ cousins.table.symbols, m.kind = .method → methods.Eligible cousins m → m.owner ≠ none) ∧
    { kind := .method, name := "run", owner := some "A", visibility := some "private" } ∈ methods.reported cousins := by
  have owned : ∀ m ∈ cousins.table.symbols, m.kind = .method → m.owner ≠ none := by decide
  refine ⟨rfl, fun m declared kind _ => owned m declared kind, ?_⟩
  obtain ⟨-, each⟩ := (mem_reported_iff_unrelated cousins methods rfl .warning).2 fun m declared kind _ => owned m declared kind
  refine (each _ (by simp [cousins, SymbolTable.ofSymbols]) rfl "A" rfl).2
    ⟨⟨Or.inl rfl, by decide, rfl, by decide, by decide⟩, ?_⟩
  simp only [cousins, List.mem_singleton]
  rintro r rfl - - -
  -- Every edge leads to the base, so no path ends in one of the two classes.
  have step : ∀ x y, cousins.table.BuildsOn x y → y = "base" := by
    rintro x y ⟨s, declared, -, -, p, above, rfl⟩
    simp only [cousins, SymbolTable.ofSymbols, List.mem_cons, List.not_mem_nil, or_false] at declared
    rcases declared with rfl | rfl | rfl
    · rw [List.mem_singleton.1 above]; decide
    · rw [List.mem_singleton.1 above]; decide
    · cases above
  refine ⟨"B", rfl, by decide, by decide, fun path => ?_, fun path => ?_⟩
  · obtain ⟨x, -, last⟩ := Relation.TransGen.tail'_iff.1 path
    exact absurd (step _ _ last) (by decide)
  · obtain ⟨x, -, last⟩ := Relation.TransGen.tail'_iff.1 path
    exact absurd (step _ _ last) (by decide)

/-- A class with a private method that nothing calls, and a private method that is called but said to belong to no class. -/
def straying : Context := {
  table := .ofSymbols [
    { kind := .classType, name := "A" },
    { kind := .method, name := "run", owner := some "A", visibility := some "private" },
    { kind := .method, name := "stray", visibility := some "private" }]
  references := [{ kind := .methodCall, name := "stray" }] }

/-- One member without an owner keeps the rule from reporting any other. -/
theorem not_reported_straying :
    { kind := .method, name := "run", owner := some "A", visibility := some "private" } ∈ straying.table.symbols ∧
    methods.Eligible straying { kind := .method, name := "run", owner := some "A", visibility := some "private" } ∧
    (∀ r ∈ straying.references, Text.lower r.name ≠ Text.lower "run") ∧
    methods.check straying .warning = .error .memberWithoutOwner := by
  refine ⟨by simp [straying, SymbolTable.ofSymbols], ⟨Or.inl rfl, by decide, rfl, by decide, by decide⟩, by decide, ?_⟩
  rw [check_eq_error_iff rfl]
  exact ⟨_, List.mem_of_getElem? (i := 2) rfl, rfl, ⟨Or.inl rfl, by decide, rfl, by decide, by decide⟩, rfl⟩

end Rule
end DeadCode
