import DeadCode.Proofs.Verdicts
import DeadCode.Report.Basic

/-!
# Choosing rules

Every finding bears the name of the rule that made it, so findings of different rules are never the same, and of those
that are the same the first one stands in the list of one rule. Running some of the rules therefore gives what they give
in a run of all, place by place, whatever the order in which they are named and however often (`analyze_eq_keep`).
-/

namespace DeadCode
set_option autoImplicit false

theorem Rule.rule_of_mem_findings {rule : Rule} {c : Context} {severity : Severity} {i : Issue}
    (h : i ∈ rule.findings c severity) : i.rule = rule.label := by
  have symbols : i ∈ symbolFindings rule c severity → i.rule = rule.label := by
    intro h
    obtain ⟨s, -, rfl⟩ := List.mem_map.1 h
    rfl
  cases rule with
  | imports =>
    obtain ⟨e, -, h⟩ := List.mem_flatMap.1 h
    unfold checkFileImports at h
    split at h
    · cases h
    · obtain ⟨u, -, rfl⟩ := List.mem_map.1 h
      rfl
  | files =>
    obtain ⟨file, -, rfl⟩ := List.mem_map.1 h
    rfl
  | dependencies =>
    simp only [findings, checkDependencies] at h
    split at h
    · cases h
    · obtain ⟨p, -, rfl⟩ := List.mem_map.1 h
      rfl
  | _ => exact symbols h

/-- To keep the findings of some rules only is to filter by the rule. -/
theorem Report.mem_keep_only {only : List String} (given : only ≠ []) {is : List Issue} {i : Issue} :
    i ∈ keep none only [] is ↔ i ∈ is ∧ i.rule ∈ only := by
  simp [keep, given]

namespace Context

variable {c : Context}

theorem rule_of_mem_findingsOf {name : String} {i : Issue} (h : i ∈ c.findingsOf name) : i.rule = name := by
  unfold findingsOf at h
  split at h
  · next rule severity known _ => rw [Rule.rule_of_mem_findings h, Rule.label_of_ofLabel? known]
  · cases h

/-- Among the findings of some rules, the first that is the same as a given one stands with the rule of that one. -/
theorem find?_flatMap_findingsOf (names : List String) (i : Issue) :
    (names.flatMap c.findingsOf).find? (·.same i) =
      if i.rule ∈ names then (c.findingsOf i.rule).find? (·.same i) else none := by
  have other : ∀ name, name ≠ i.rule → (c.findingsOf name).find? (·.same i) = none := by
    intro name ne
    refine List.find?_eq_none.2 fun j found same => ne ?_
    rw [← rule_of_mem_findingsOf found]
    exact (Issue.key_eq_iff.1 (Issue.same_iff_key_eq.1 same)).2.2.1
  induction names with
  | nil => rfl
  | cons name names ih =>
    rw [List.flatMap_cons, List.find?_append, ih]
    by_cases own : name = i.rule
    · subst own
      cases (c.findingsOf i.rule).find? (·.same i) <;> simp
    · rw [other name own]
      simp [Ne.symm own]

theorem analyze_labels_eq (owned : c.Owned) (rules : List Rule) :
    c.analyze (rules.map Rule.label) = .ok (Issue.canonical ((rules.map Rule.label).flatMap c.findingsOf)) := by
  have known : (rules.map Rule.label).find? c.isUnknown = none := by
    simp [List.find?_eq_none, isUnknown, Rule.ofLabel?_label]
  rw [analyze_eq owned, known]

/-- **Rules are independent and the report is canonical.** Running some rules gives the findings of these rules in a run
of all, severities and messages included, and they stand in strictly increasing order of file, line, rule and symbol. -/
theorem analyze_eq_keep (owned : c.Owned) {rules : List Rule} (given : rules ≠ []) :
    ∃ all, c.analyzeAll = .ok all ∧
      c.analyze (rules.map Rule.label) = .ok (Report.keep none (rules.map Rule.label) [] all) ∧
      ((Report.keep none (rules.map Rule.label) [] all).map Issue.key).Pairwise (· < ·) := by
  have names : rules.map Rule.label ≠ [] := by simpa using given
  have sorted := Issue.sorted_map_key_canonical ((Rule.all.map Rule.label).flatMap c.findingsOf)
  have kept : ((Report.keep none (rules.map Rule.label) []
      (Issue.canonical ((Rule.all.map Rule.label).flatMap c.findingsOf))).map Issue.key).Pairwise (· < ·) :=
    sorted.sublist (List.filter_sublist.map _)
  refine ⟨_, analyze_labels_eq owned Rule.all, ?_, kept⟩
  rw [analyze_labels_eq owned rules]
  refine congrArg Except.ok (Issue.eq_of_sorted_map_key (Issue.sorted_map_key_canonical _) kept fun i => ?_)
  rw [Report.mem_keep_only names, Issue.mem_canonical_iff, Issue.mem_canonical_iff, find?_flatMap_findingsOf,
    find?_flatMap_findingsOf]
  by_cases chosen : i.rule ∈ rules.map Rule.label
  · have known : i.rule ∈ Rule.all.map Rule.label := by
      obtain ⟨rule, -, label⟩ := List.mem_map.1 chosen
      exact List.mem_map.2 ⟨rule, rule.mem_all, label⟩
    rw [if_pos chosen, if_pos known, and_iff_left chosen]
  · rw [if_neg chosen]
    simp [chosen]

/-- A class and an enum of one name on one line, which make the same finding with two messages, and a method. -/
def twins : Context := {
  table := .ofSymbols [
    { kind := .enumType, name := "A", file := "a.php", startLine := 2 },
    { kind := .classType, name := "A", file := "a.php", startLine := 2 },
    { kind := .method, name := "m", file := "a.php", startLine := 3, visibility := some "private", owner := some "A" }] }

theorem analyze_twins : twins.Owned ∧ [Rule.methods, .classes, .methods] ≠ [] ∧
    ∃ all, twins.analyzeAll = .ok all ∧
      twins.analyze ([Rule.methods, .classes, .methods].map Rule.label) =
        .ok (Report.keep none ([Rule.methods, .classes, .methods].map Rule.label) [] all) ∧
      ((Report.keep none ([Rule.methods, .classes, .methods].map Rule.label) [] all).map Issue.key).Pairwise (· < ·) := by
  have owned : twins.Owned := by
    unfold Owned
    decide
  exact ⟨owned, by decide, analyze_eq_keep owned (by decide)⟩

end Context
end DeadCode
