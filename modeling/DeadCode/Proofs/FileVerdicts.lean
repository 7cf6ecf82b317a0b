import DeadCode.Proofs.MemberUse
import Mathlib.Data.List.Pairwise

/-!
# Files and what they declare

The rule about files asks of every declaration outside classes whether it is in use, with tests of its own for what is
to be left out. It agrees with the rules about those declarations: a file is reported exactly if it declares something,
nothing spares it or a declaration of it, and each declaration is reported by the rule for its kind. The exception are files with
global constants where the rule about constants fails at a class constant without owner, which the rule about files does not see
(`reportsFile_iff_reports`).
-/

namespace DeadCode
set_option autoImplicit false

/-- The rule that judges symbols of a kind. -/
def SymbolKind.rule : SymbolKind → Rule
  | classType | enumType => .classes
  | interfaceType => .interfaces
  | traitType => .traits
  | function => .functions
  | method => .methods
  | property => .properties
  | classConstant | globalConstant => .constants

theorem SymbolKind.mem_kinds_rule (kind : SymbolKind) : kind ∈ kind.rule.kinds := by
  cases kind <;> simp [rule, Rule.kinds]

theorem SymbolKind.rule_mem_of_isTopLevel {kind : SymbolKind} (top : kind.isTopLevel = true) :
    kind.rule ∈ [Rule.files, .classes, .interfaces, .traits, .functions, .constants] := by
  revert top
  cases kind <;> decide

/-- Of the rules about what stands outside classes, only the one about constants can fail. -/
theorem SymbolKind.check_rule_eq {kind : SymbolKind} (top : kind.isTopLevel = true) {c : Context}
    (runs : kind ≠ .globalConstant ∨ ¬(c.table.ofKinds Rule.constants.kinds).any (Rule.constants.lacksOwner c) = true)
    (severity : Severity) : kind.rule.check c severity = .ok (kind.rule.findings c severity) := by
  cases kind with
  | globalConstant => exact (Rule.check_eq_ite c severity .constants).trans (if_neg (runs.resolve_left fun ne => ne rfl))
  | method => cases top
  | property => cases top
  | classConstant => cases top
  | _ => rfl

theorem SymbolKind.label_injective {k l : SymbolKind} (h : k.label = l.label) : k = l :=
  Option.some.inj (by rw [← ofLabel?_label k, h, ofLabel?_label])

theorem Symbol.displayName_of_isTopLevel {s : Symbol} (top : s.kind.isTopLevel = true) : s.displayName = s.fqn := by
  unfold displayName
  cases kind : s.kind with
  | property => rw [kind] at top; cases top
  | _ => rfl

namespace Context

/-- The rule for the kind of the symbol has a finding about it. -/
def Reports (c : Context) (s : Symbol) : Prop :=
  ∃ severity found, c.severity s.kind.rule.label = some severity ∧ c.runRule s.kind.rule.label = .ok found ∧
    Rule.issueFor s.kind.rule s (s.kind.rule.severityFor c severity s) ∈ found

/-- The rule about files has a finding about the file. -/
def ReportsFile (c : Context) (file : String) : Prop :=
  ∃ found, c.runRule Rule.files.label = .ok found ∧ ∃ i ∈ found, i.file = file

/-- No two declarations outside classes in one file share their kind, full name and line. -/
def TellsApart (c : Context) : Prop :=
  (c.table.symbols.filter (·.kind.isTopLevel)).Pairwise fun s t =>
    ¬(s.file = t.file ∧ s.kind = t.kind ∧ s.fqn = t.fqn ∧ s.startLine = t.startLine)

variable {c : Context} {s t : Symbol}

theorem TellsApart.eq (apart : c.TellsApart) (declared : s ∈ c.table.symbols) (top : s.kind.isTopLevel = true)
    (declared' : t ∈ c.table.symbols) (file : s.file = t.file) (kind : s.kind = t.kind) (name : s.fqn = t.fqn)
    (line : s.startLine = t.startLine) : s = t := by
  by_contra ne
  have symm : Std.Symm fun s t : Symbol =>
      ¬(s.file = t.file ∧ s.kind = t.kind ∧ s.fqn = t.fqn ∧ s.startLine = t.startLine) :=
    ⟨fun _ _ h => fun ⟨a, b, c, d⟩ => h ⟨a.symm, b.symm, c.symm, d.symm⟩⟩
  exact List.Pairwise.forall apart (List.mem_filter.2 ⟨declared, top⟩)
    (List.mem_filter.2 ⟨declared', kind ▸ top⟩) ne ⟨file, kind, name, line⟩

theorem isIgnored_of_plain (plain : s.owner? = none) (kept : s.ignored = false) (path : c.isPathIgnored s.file = false)
    (rule : String) : c.isIgnored s rule = c.matchesIgnore s.fqn := by
  simp [isIgnored, plain, kept, path]

/-- Where nothing else spares a declaration, it keeps its file exactly if its own rule does not report it. -/
theorem keepsFile_eq_false_iff (top : s.kind.isTopLevel = true) (plain : s.owner? = none)
    (proper : s.hasMark "enum_case" = false) (path : c.isPathIgnored s.file = false) :
    Rule.keepsFile c (ClassUsage.of c) c.calledFunctions c.readConstants s = false ↔
      s.ignored = false ∧ s.kind.rule.isUnused c s = true := by
  rw [Rule.keepsFile, Bool.or_eq_false_iff, Bool.or_eq_false_iff, and_assoc]
  refine and_congr_right fun kept => ?_
  have ignored := isIgnored_of_plain (c := c) plain kept path
  cases kind : s.kind with
  | method => rw [kind] at top; cases top
  | property => rw [kind] at top; cases top
  | classConstant => rw [kind] at top; cases top
  | _ => simp [SymbolKind.rule, SymbolKind.isClassLike, Rule.isUnused, Rule.judgesConstant, ignored, kind, proper]

/-- A finding about a declaration outside classes tells which one it is about. -/
theorem TellsApart.eq_of_issueFor (apart : c.TellsApart) (declared : s ∈ c.table.symbols)
    (top : s.kind.isTopLevel = true) (declared' : t ∈ c.table.symbols) {rule : Rule} {severity severity' : Severity}
    (same : Rule.issueFor rule t severity' = Rule.issueFor rule s severity) : t = s := by
  simp only [Rule.issueFor, Issue.mk.injEq, Option.some.injEq, true_and] at same
  obtain ⟨name, file, line, -, -, label⟩ := same
  have kind := SymbolKind.label_injective label
  rw [Symbol.displayName_of_isTopLevel top, Symbol.displayName_of_isTopLevel (kind ▸ top)] at name
  exact apart.eq declared' (kind ▸ top) declared file kind name line

/-- A rule that runs reports the declarations outside classes that it finds unused. -/
theorem reports_iff_isUnused (apart : c.TellsApart) (declared : s ∈ c.table.symbols) (top : s.kind.isTopLevel = true)
    {severity : Severity} (on : c.severity s.kind.rule.label = some severity)
    (runs : s.kind.rule.check c severity = .ok (s.kind.rule.findings c severity)) :
    c.Reports s ↔ s.kind.rule.isUnused c s = true := by
  rw [Rule.findings_eq_symbolFindings s.kind.mem_kinds_rule] at runs
  constructor
  · rintro ⟨severity', found, on', run, reported⟩
    obtain rfl : severity = severity' := Option.some.inj (on.symm.trans on')
    rw [runRule_label on, runs] at run
    obtain rfl := Except.ok.inj run
    obtain ⟨t, judged, same⟩ := List.mem_map.1 reported
    obtain ⟨given, unused⟩ := List.mem_filter.1 judged
    obtain rfl := apart.eq_of_issueFor declared top (SymbolTable.mem_ofKinds.1 given).1 same
    exact unused
  · intro unused
    refine ⟨severity, _, on, (runRule_label on).trans runs, List.mem_map.2 ⟨s, List.mem_filter.2 ⟨?_, unused⟩, rfl⟩⟩
    exact SymbolTable.mem_ofKinds.2 ⟨declared, s.kind.mem_kinds_rule⟩

theorem reportsFile_iff {severity : Severity} (on : c.severity Rule.files.label = some severity) {file : String} :
    c.ReportsFile file ↔ c.isEntryFile file = false ∧ c.isPathIgnored file = false ∧
      (∃ s ∈ c.table.symbols, s.file = file ∧ s.kind.isTopLevel = true) ∧
      ∀ s ∈ c.table.symbols, s.file = file → s.kind.isTopLevel = true →
        Rule.keepsFile c (ClassUsage.of c) c.calledFunctions c.readConstants s = false := by
  have run : c.runRule Rule.files.label = .ok (Rule.checkFiles c severity) := runRule_label on
  have file_of_key : ∀ {k k' : Issue.Key}, k = k' → (ofLex k).1 = (ofLex k').1 := fun eq => eq ▸ rfl
  constructor
  · rintro ⟨found, run', i, reported, rfl⟩
    obtain rfl := Except.ok.inj (run.symm.trans run')
    obtain ⟨file, entry, path, declares, all, key⟩ := Rule.mem_checkFiles.1 (List.mem_map_of_mem (f := Issue.key) reported)
    obtain rfl : file = i.file := file_of_key key
    exact ⟨entry, path, declares, all⟩
  · rintro ⟨entry, path, declares, all⟩
    obtain ⟨i, reported, key⟩ := List.mem_map.1 (Rule.mem_checkFiles.2 ⟨file, entry, path, declares, all, rfl⟩)
    exact ⟨_, run, i, reported, file_of_key key⟩

/-- **Files are judged by what they declare.** With the rules on, the one about constants fails if and only if a class constant
that it has to judge has no owner. If none lacks one, or the file declares no global constant, then the file is reported if and
only if it declares something outside classes, is no entry point and not left out, and each such declaration is not to be
ignored and is reported by the rule for its kind. -/
theorem reportsFile_iff_reports
    (on : ∀ rule ∈ [Rule.files, .classes, .interfaces, .traits, .functions, .constants],
      (c.severity rule.label).isSome = true)
    (plain : ∀ s ∈ c.table.symbols, s.kind.isTopLevel = true → s.owner? = none ∧ s.hasMark "enum_case" = false)
    (apart : c.TellsApart) :
    (c.runRule Rule.constants.label = .error .memberWithoutOwner ↔
      ∃ s ∈ c.table.symbols, s.kind = .classConstant ∧ Rule.constants.Eligible c s ∧ s.owner = none) ∧
    ∀ file,
      ((∀ s ∈ c.table.symbols, s.file = file → s.kind ≠ .globalConstant) ∨
        ∀ s ∈ c.table.symbols, s.kind = .classConstant → Rule.constants.Eligible c s → s.owner ≠ none) →
      (c.ReportsFile file ↔
        (∃ s ∈ c.table.symbols, s.file = file ∧ s.kind.isTopLevel = true) ∧
        c.isEntryFile file = false ∧ c.isPathIgnored file = false ∧
        (∀ s ∈ c.table.symbols, s.file = file → s.kind.isTopLevel = true → s.ignored = false) ∧
        ∀ s ∈ c.table.symbols, s.file = file → s.kind.isTopLevel = true → c.Reports s) := by
  constructor
  · obtain ⟨severity, constantsOn⟩ := Option.isSome_iff_exists.1 (on .constants (by simp))
    rw [runRule_label constantsOn]
    exact Rule.check_eq_error_iff rfl
  · intro file spared
    have each : ∀ s ∈ c.table.symbols, s.file = file → s.kind.isTopLevel = true → c.isPathIgnored s.file = false →
        (Rule.keepsFile c (ClassUsage.of c) c.calledFunctions c.readConstants s = false ↔
          s.ignored = false ∧ c.Reports s) := by
      intro s declared at_ top path
      obtain ⟨severity, ruleOn⟩ := Option.isSome_iff_exists.1 (on _ (SymbolKind.rule_mem_of_isTopLevel top))
      obtain ⟨own, proper⟩ := plain s declared top
      have runs : s.kind ≠ .globalConstant ∨
          ¬(c.table.ofKinds Rule.constants.kinds).any (Rule.constants.lacksOwner c) = true := by
        refine spared.imp (fun free => free s declared at_) fun owned faulty => ?_
        obtain ⟨m, given, kind, eligible, none⟩ := (Rule.any_lacksOwner_iff rfl).1 faulty
        exact owned m given kind eligible none
      rw [keepsFile_eq_false_iff top own proper path,
        reports_iff_isUnused apart declared top ruleOn (SymbolKind.check_rule_eq top runs severity)]
    obtain ⟨severity, filesOn⟩ := Option.isSome_iff_exists.1 (on .files (by simp))
    rw [reportsFile_iff filesOn]
    constructor
    · rintro ⟨entry, path, declares, all⟩
      have parts : ∀ s ∈ c.table.symbols, s.file = file → s.kind.isTopLevel = true → s.ignored = false ∧ c.Reports s := by
        rintro s declared at_ top
        exact (each s declared at_ top (at_ ▸ path)).1 (all s declared at_ top)
      exact ⟨declares, entry, path, fun s declared at_ top => (parts s declared at_ top).1,
        fun s declared at_ top => (parts s declared at_ top).2⟩
    · rintro ⟨declares, entry, path, kept, reported⟩
      refine ⟨entry, path, declares, ?_⟩
      rintro s declared at_ top
      exact (each s declared at_ top (at_ ▸ path)).2 ⟨kept s declared at_ top, reported s declared at_ top⟩

/-- A class that a framework uses with an enum of its name on the same line, and a function with a constant. -/
def mixed : Context := {
  table := .ofSymbols [
    { kind := .classType, name := "A", file := "src/a.php", startLine := 2, metadata := [(frameworkMark, .bool true)] },
    { kind := .enumType, name := "A", file := "src/a.php", startLine := 2 },
    { kind := .function, name := "f", file := "src/b.php", startLine := 2 },
    { kind := .globalConstant, name := "K", file := "src/b.php", startLine := 3 }] }

theorem reportsFile_mixed :
    (∀ rule ∈ [Rule.files, .classes, .interfaces, .traits, .functions, .constants],
      (mixed.severity rule.label).isSome = true) ∧
    (∀ s ∈ mixed.table.symbols, s.kind.isTopLevel = true → s.owner? = none ∧ s.hasMark "enum_case" = false) ∧
    mixed.TellsApart ∧
    ∀ file, mixed.ReportsFile file ↔
      (∃ s ∈ mixed.table.symbols, s.file = file ∧ s.kind.isTopLevel = true) ∧
      mixed.isEntryFile file = false ∧ mixed.isPathIgnored file = false ∧
      (∀ s ∈ mixed.table.symbols, s.file = file → s.kind.isTopLevel = true → s.ignored = false) ∧
      ∀ s ∈ mixed.table.symbols, s.file = file → s.kind.isTopLevel = true → mixed.Reports s := by
  have on : ∀ rule ∈ [Rule.files, .classes, .interfaces, .traits, .functions, .constants],
      (mixed.severity rule.label).isSome = true := by decide
  have plain : ∀ s ∈ mixed.table.symbols, s.kind.isTopLevel = true →
      s.owner? = none ∧ s.hasMark "enum_case" = false := by decide
  have apart : mixed.TellsApart := by
    unfold TellsApart
    decide
  have members : ∀ s ∈ mixed.table.symbols, s.kind ≠ .classConstant := by decide
  refine ⟨on, plain, apart, fun file => (reportsFile_iff_reports on plain apart).2 file (Or.inr ?_)⟩
  exact fun s declared kind => absurd kind (members s declared)

/-- A constant that nothing reads, and a private class constant that is read but said to belong to no class. -/
def adrift : Context := {
  table := .ofSymbols [
    { kind := .globalConstant, name := "K", file := "b.php", startLine := 2 },
    { kind := .classConstant, name := "X", file := "c.php", startLine := 3, visibility := some "private" }]
  references := [{ kind := .classConstantAccess, name := "X" }] }

/-- One class constant without an owner keeps the rule about constants from reporting any, but not the one about files. -/
theorem reportsFile_adrift :
    (∀ rule ∈ [Rule.files, .classes, .interfaces, .traits, .functions, .constants],
      (adrift.severity rule.label).isSome = true) ∧
    (∀ s ∈ adrift.table.symbols, s.kind.isTopLevel = true → s.owner? = none ∧ s.hasMark "enum_case" = false) ∧
    adrift.TellsApart ∧ adrift.ReportsFile "b.php" ∧
    ∃ s ∈ adrift.table.symbols, s.file = "b.php" ∧ s.kind.isTopLevel = true ∧ ¬adrift.Reports s := by
  have stopped : adrift.runRule Rule.constants.label = .error .memberWithoutOwner := by
    have on : adrift.severity Rule.constants.label = some .warning := by decide
    rw [runRule_label on, Rule.check_eq_error_iff rfl]
    exact ⟨_, List.mem_of_getElem? (i := 1) rfl, rfl, ⟨by decide, Or.inl (by decide), by decide⟩, rfl⟩
  refine ⟨by decide, by decide, by unfold TellsApart; decide, ?_, ?_⟩
  · have on : adrift.severity Rule.files.label = some .warning := by decide
    rw [reportsFile_iff on]
    exact ⟨by decide, by decide, ⟨_, List.mem_of_getElem? (i := 0) rfl, rfl, rfl⟩, by decide⟩
  · refine ⟨_, List.mem_of_getElem? (i := 0) rfl, rfl, rfl, ?_⟩
    rintro ⟨severity, found, -, run, -⟩
    exact nomatch stopped.symm.trans run

end Context
end DeadCode
