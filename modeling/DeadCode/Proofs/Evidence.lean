import DeadCode.Proofs.Comparison

/-!
# Evidence of use never creates a finding

A context may be given more references, more patterns of what is to be left out, more entry points and more marks of
frameworks. Whatever is added, every finding of the richer context is a finding of the poorer one.
-/

namespace DeadCode.Context
set_option autoImplicit false

/-- The second context is the first one with evidence added: references inserted anywhere, patterns and entry points
appended, symbols marked as used by a framework. All else is the same. -/
structure AddsEvidence (c c' : Context) : Prop where
  symbols : List.Forall₂ Symbol.MarkedAs c.table.symbols c'.table.symbols
  references : c.references ⊆ c'.references
  imports : c'.imports = c.imports
  dependencies : c'.dependencies = c.dependencies
  root : c'.root = c.root
  rules : c'.settings.rules = c.settings.rules
  publicMethods : c'.settings.checkPublicMethods = c.settings.checkPublicMethods
  publicConstants : c'.settings.checkPublicConstants = c.settings.checkPublicConstants
  ignorePatterns : c.settings.ignorePatterns ⊆ c'.settings.ignorePatterns
  ignorePaths : c.settings.ignorePaths ⊆ c'.settings.ignorePaths
  entryPoints : c.settings.entryPoints ⊆ c'.settings.entryPoints
  ignoreDependencies : c.settings.ignoreDependencies ⊆ c'.settings.ignoreDependencies
  frameworkPatterns : c.frameworkPatterns ⊆ c'.frameworkPatterns
  frameworkPaths : c.frameworkPaths ⊆ c'.frameworkPaths
  entrySymbols : c.entrySymbols ⊆ c'.entrySymbols
  entryFiles : c.entryFiles ⊆ c'.entryFiles

variable {c c' : Context}

theorem AddsEvidence.laxer (more : c.AddsEvidence c') : c.Laxer c' where
  judged := (exists_related more.symbols).1
  kept := (exists_related more.symbols).2
  imports := fun e given _ listed => ⟨e, more.imports ▸ given, rfl, listed⟩
  dependencies := fun d given => ⟨d, more.dependencies ▸ given, rfl, rfl, fun _ listed => listed⟩
  rules := more.rules
  publicMethods := more.publicMethods
  publicConstants := more.publicConstants
  root := more.root
  ignorePatterns := append_subset_append more.ignorePatterns more.frameworkPatterns
  ignorePaths := append_subset_append more.ignorePaths more.frameworkPaths
  entrySymbols := more.entrySymbols
  entryFiles := append_subset_append more.entryPoints more.entryFiles
  ignoreDependencies := more.ignoreDependencies

/-- **Evidence of use never creates a finding.** The two analyses fail alike or both succeed, and then every finding
with the evidence is the same as one without it. -/
theorem findings_of_addsEvidence (owned : c.Owned) (more : c.AddsEvidence c') (rules : List String) :
    Outcomes (fun found found' => ∀ i ∈ found', ∃ j ∈ found, i.same j = true) (c.analyze rules) (c'.analyze rules) := by
  have lax := more.laxer
  rw [analyze_eq owned, analyze_eq (lax.owned owned), lax.isUnknown_eq]
  cases rules.find? c.isUnknown with
  | some name => exact rfl
  | none =>
    intro i reported
    have key : i.key ∈ (rules.flatMap c'.findingsOf).map Issue.key :=
      List.mem_map_of_mem (Issue.mem_canonical reported)
    have known := lax.mem_flatMap_findingsOf (Rule.shows_of_subset more.references) key
    obtain ⟨j, reported, eq⟩ := List.mem_map.1 (Issue.mem_map_key_canonical.2 known)
    exact ⟨j, reported, Issue.same_iff_key_eq.2 eq.symm⟩

/-- A class with a private method, neither of them used. -/
def idle : Context := {
  table := .ofSymbols [
    { kind := .classType, name := "A", file := "a.php", startLine := 2 },
    { kind := .method, name := "m", file := "a.php", startLine := 3, visibility := some "private", owner := some "A" }] }

/-- The same with a call, a mark, patterns and entry points. -/
def busy : Context := {
  table := .ofSymbols [
    { kind := .classType, name := "A", file := "a.php", startLine := 2, metadata := [(frameworkMark, .bool true)] },
    { kind := .method, name := "m", file := "a.php", startLine := 3, visibility := some "private", owner := some "A" }]
  references := [{ kind := .methodCall, name := "M", parent := some "a", file := "b.php", line := 1 }]
  settings := { ignorePatterns := ["B*"], ignorePaths := ["tests/**"], entryPoints := ["run.php"],
                ignoreDependencies := ["x/*"] }
  frameworkPatterns := ["C"], frameworkPaths := ["d/*"], entrySymbols := ["E"], entryFiles := ["f.php"] }

theorem findings_of_busy : idle.Owned ∧ idle.AddsEvidence busy ∧
    Outcomes (fun found found' => ∀ i ∈ found', ∃ j ∈ found, i.same j = true) (idle.analyze ["unused-methods"])
      (busy.analyze ["unused-methods"]) := by
  have owned : idle.Owned := by
    intro s given member
    simp only [idle, SymbolTable.ofSymbols, List.mem_cons, List.not_mem_nil, or_false] at given
    rcases given with rfl | rfl
    · cases member
    · rfl
  have more : idle.AddsEvidence busy := {
    symbols := .cons (Or.inr rfl) (.cons (Or.inl rfl) .nil)
    references := List.nil_subset _
    imports := rfl
    dependencies := rfl
    root := rfl
    rules := rfl
    publicMethods := rfl
    publicConstants := rfl
    ignorePatterns := List.nil_subset _
    ignorePaths := List.nil_subset _
    entryPoints := List.nil_subset _
    ignoreDependencies := List.nil_subset _
    frameworkPatterns := List.nil_subset _
    frameworkPaths := List.nil_subset _
    entrySymbols := List.nil_subset _
    entryFiles := List.nil_subset _ }
  exact ⟨owned, more, findings_of_addsEvidence owned more _⟩

end DeadCode.Context
