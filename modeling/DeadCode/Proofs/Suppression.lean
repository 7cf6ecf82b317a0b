import DeadCode.Proofs.Verdicts

/-!
# What is to be left out is left out

Files, names and single declarations can be kept out of a report: by patterns of the settings or of a framework, and by a
comment above a declaration. Each rule makes its own tests for this. `findings_not_suppressed` says for all rules about
source code that none of them forgets one.
-/

namespace DeadCode
set_option autoImplicit false

namespace Context

/-- A pattern of the settings or of a framework fits the full name. -/
def LeavesOut (c : Context) (fqn : String) : Prop :=
  ∃ p ∈ c.settings.ignorePatterns ++ c.frameworkPatterns, Glob.matchesSymbol fqn [p] = true

/-- A pattern of the settings or of a framework fits the path of the file in the project. -/
def LeavesOutFile (c : Context) (file : String) : Prop :=
  ∃ p ∈ c.settings.ignorePaths ++ c.frameworkPaths, Glob.matchesPath (c.relativePath file) [p] = true

/-- What keeps a symbol out of the findings of a rule. -/
inductive Suppresses (c : Context) (rule : Rule) (s : Symbol) : Prop
  | file : c.LeavesOutFile s.file → c.Suppresses rule s
  | name : c.LeavesOut s.fqn → c.Suppresses rule s
  | owner (o : String) : s.owner = some o → o ≠ "" → c.LeavesOut o → c.Suppresses rule s
  | allRules : s.ignored = true → s.ignoredRule = none → c.Suppresses rule s
  | thisRule : s.ignored = true → s.ignoredRule = some rule.label → c.Suppresses rule s

variable {c : Context}

theorem matchesIgnore_iff {fqn : String} : c.matchesIgnore fqn = true ↔ c.LeavesOut fqn := by
  simp only [matchesIgnore, LeavesOut, Glob.matchesSymbol, ignorePatterns, List.any_eq_true, List.mem_singleton,
    exists_eq_left]

theorem isPathIgnored_iff {file : String} : c.isPathIgnored file = true ↔ c.LeavesOutFile file := by
  simp only [isPathIgnored, LeavesOutFile, Glob.matchesPath, ignorePaths, List.any_eq_true, List.mem_singleton,
    exists_eq_left]

theorem matchesIgnore_owner_iff {s : Symbol} :
    (s.owner?.map c.matchesIgnore).getD false = true ↔ ∃ o, s.owner = some o ∧ o ≠ "" ∧ c.LeavesOut o := by
  unfold Symbol.owner?
  cases s.owner with
  | none => simp
  | some o =>
    by_cases empty : o = ""
    · simp [Option.filter, empty]
    · simp [Option.filter, empty, matchesIgnore_iff]

theorem isIgnored_iff {rule : Rule} {s : Symbol} : c.isIgnored s rule.label = true ↔ c.Suppresses rule s := by
  simp only [isIgnored, Bool.or_eq_true, Bool.and_eq_true, beq_iff_eq, matchesIgnore_iff, matchesIgnore_owner_iff,
    isPathIgnored_iff]
  constructor
  · rintro (((⟨own, always | here⟩ | name) | ⟨o, owner, filled, pattern⟩) | file)
    · exact .allRules own always
    · exact .thisRule own here
    · exact .name name
    · exact .owner o owner filled pattern
    · exact .file file
  · rintro (file | name | ⟨o, owner, filled, pattern⟩ | ⟨own, always⟩ | ⟨own, here⟩)
    · exact Or.inr file
    · exact Or.inl (Or.inl (Or.inr name))
    · exact Or.inl (Or.inr ⟨o, owner, filled, pattern⟩)
    · exact Or.inl (Or.inl (Or.inl ⟨own, Or.inl always⟩))
    · exact Or.inl (Or.inl (Or.inl ⟨own, Or.inr here⟩))

end Context

namespace Rule

variable {c : Context} {rule : Rule} {severity : Severity}

/-- The finding is the one about the symbol, whatever its severity. -/
def Concerns (rule : Rule) (i : Issue) (s : Symbol) : Prop := i = issueFor rule s i.severity

theorem not_suppresses_of_isUnused {s : Symbol} (unused : rule.isUnused c s = true) : ¬c.Suppresses rule s := by
  rw [← Context.isIgnored_iff, Bool.not_eq_true]
  cases rule with
  | imports => cases unused
  | files => cases unused
  | dependencies => cases unused
  | _ =>
    simp only [isUnused, judgesMethod, judgesConstant, Bool.and_eq_true, Bool.not_eq_true'] at unused
    tauto

theorem concerns_symbolFindings (rule : Rule) (c : Context) (severity : Severity) :
    List.Forall₂ rule.Concerns (rule.symbolFindings c severity)
      ((c.table.ofKinds rule.kinds).filter (rule.isUnused c)) := by
  rw [symbolFindings, List.forall₂_map_left_iff, List.forall₂_same]
  intro s _
  rfl

/-- A finding about an import is about one that is neither in a file to be left out nor to be left out itself. -/
theorem of_mem_checkImports {i : Issue} (found : i ∈ checkImports c severity) :
    c.isPathIgnored i.file = false ∧ c.matchesIgnore i.symbol = false := by
  obtain ⟨e, -, found⟩ := List.mem_flatMap.1 found
  unfold checkFileImports at found
  split at found
  · cases found
  · next spared =>
    obtain ⟨u, listed, rfl⟩ := List.mem_map.1 found
    simp only [Bool.or_eq_true, not_or, Bool.not_eq_true] at spared
    simp only [List.mem_filter, Bool.and_eq_true, Bool.not_eq_true'] at listed
    exact ⟨spared.2, listed.2.2⟩

/-- A finding about a file is about one that is not to be left out and in which nothing outside classes is. -/
theorem of_mem_checkFiles {i : Issue} (found : i ∈ checkFiles c severity) :
    c.isPathIgnored i.file = false ∧ ∀ s ∈ c.table.symbols, s.file = i.file → s.kind.isTopLevel = true →
      s.ignored = false ∧ c.matchesIgnore s.fqn = false := by
  obtain ⟨file, -, path, -, all, key⟩ := mem_checkFiles.1 (List.mem_map_of_mem (f := Issue.key) found)
  obtain rfl : file = i.file := congrArg (fun k : Issue.Key => (ofLex k).1) key
  refine ⟨path, fun s given place top => ?_⟩
  have kept := all s given place top
  simp only [keepsFile, Bool.or_eq_false_iff] at kept
  exact kept.1

theorem not_leavesOutFile_of_mem_findings (source : rule ≠ .dependencies) {i : Issue}
    (found : i ∈ rule.findings c severity) : ¬c.LeavesOutFile i.file := by
  have symbols : i ∈ rule.symbolFindings c severity → ¬c.LeavesOutFile i.file := by
    intro found
    obtain ⟨s, judged, rfl⟩ := List.mem_map.1 found
    exact fun file => not_suppresses_of_isUnused (List.mem_filter.1 judged).2 (.file file)
  cases rule with
  | imports =>
    rw [← Context.isPathIgnored_iff, Bool.not_eq_true]
    exact (of_mem_checkImports found).1
  | files =>
    rw [← Context.isPathIgnored_iff, Bool.not_eq_true]
    exact (of_mem_checkFiles found).1
  | dependencies => exact absurd rfl source
  | _ => exact symbols found

end Rule

namespace Context

variable {c : Context} {rule : Rule} {found : List Issue}

/-- What a rule gives is nothing, if it is off, or its findings. -/
theorem findings_of_runRule (run : c.runRule rule.label = .ok found) :
    found = [] ∨ ∃ severity, found = rule.findings c severity := by
  cases on : c.severity rule.label with
  | none =>
    rw [runRule_label_of_off on] at run
    exact Or.inl (Except.ok.inj run).symm
  | some severity =>
    rw [runRule_label on, Rule.check_eq_ite] at run
    split at run
    · cases run
    · exact Or.inr ⟨severity, (Except.ok.inj run).symm⟩

/-- **What is to be left out is left out.** No finding of a rule about source code is in a file to be left out. The
findings of a rule about symbols are about different symbols of its kinds, none of which is suppressed. No finding about
imports bears a name to be left out, and no file is reported that declares, outside classes, something to be ignored or
of a name to be left out. -/
theorem findings_not_suppressed (source : rule ≠ .dependencies) (run : c.runRule rule.label = .ok found) :
    (∀ i ∈ found, ¬c.LeavesOutFile i.file) ∧
    (rule.kinds ≠ [] → ∃ judged : List Symbol, judged.Sublist (c.table.ofKinds rule.kinds) ∧
      List.Forall₂ rule.Concerns found judged ∧ ∀ s ∈ judged, ¬c.Suppresses rule s) ∧
    (rule = .imports → ∀ i ∈ found, ¬c.LeavesOut i.symbol) ∧
    (rule = .files → ∀ i ∈ found, ∀ s ∈ c.table.symbols, s.file = i.file → s.kind.isTopLevel = true →
      s.ignored = false ∧ ¬c.LeavesOut s.fqn) := by
  rcases findings_of_runRule run with rfl | ⟨severity, rfl⟩
  · exact ⟨by simp, fun _ => ⟨[], List.nil_sublist _, .nil, by simp⟩, by simp, by simp⟩
  · refine ⟨fun i given => Rule.not_leavesOutFile_of_mem_findings source given, fun symbols => ?_, ?_, ?_⟩
    · obtain ⟨kind, about⟩ := List.exists_mem_of_ne_nil _ symbols
      rw [Rule.findings_eq_symbolFindings about]
      refine ⟨_, List.filter_sublist, rule.concerns_symbolFindings c severity, fun s judged => ?_⟩
      exact Rule.not_suppresses_of_isUnused (List.mem_filter.1 judged).2
    · rintro rfl i given
      rw [← matchesIgnore_iff, Bool.not_eq_true]
      exact (Rule.of_mem_checkImports given).2
    · rintro rfl i given s declared place top
      rw [← matchesIgnore_iff, Bool.not_eq_true]
      exact (Rule.of_mem_checkFiles given).2 s declared place top

/-- Private methods that nobody calls: of a class to be left out, in a file to be left out, with a comment for all rules,
with one for this rule, and with one for another rule. -/
def muted : Context := {
  table := .ofSymbols [
    { kind := .method, name := "a", file := "a.php", visibility := some "private", owner := some "Old\\A" },
    { kind := .method, name := "b", file := "lib/b.php", visibility := some "private", owner := some "B" },
    { kind := .method, name := "c", file := "c.php", visibility := some "private", owner := some "C", ignored := true },
    { kind := .method, name := "d", file := "c.php", visibility := some "private", owner := some "C", ignored := true,
      ignoredRule := some "unused-methods" },
    { kind := .method, name := "e", file := "c.php", visibility := some "private", owner := some "C", ignored := true,
      ignoredRule := some "unused-classes" }]
  settings := { ignorePatterns := ["old\\*"] }
  frameworkPaths := ["lib/**"] }

theorem findings_muted : Rule.methods ≠ .dependencies ∧ ∃ i, muted.runRule Rule.methods.label = .ok [i] ∧
    i.symbol = "C::e" ∧ ¬muted.LeavesOutFile i.file ∧
    ∃ judged : List Symbol, judged.Sublist (muted.table.ofKinds Rule.methods.kinds) ∧
      List.Forall₂ Rule.methods.Concerns [i] judged ∧ ∀ s ∈ judged, ¬muted.Suppresses .methods s := by
  have run : muted.runRule Rule.methods.label = .ok [
      { rule := "unused-methods", symbol := "C::e", file := "c.php", line := 0
        message := "Method 'C::e' is never called", symbolKind := some "method" }] := rfl
  obtain ⟨files, symbols, -, -⟩ := findings_not_suppressed (by decide) run
  exact ⟨by decide, _, run, rfl, files _ List.mem_cons_self, symbols (by decide)⟩

end Context
end DeadCode
