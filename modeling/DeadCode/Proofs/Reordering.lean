import DeadCode.Proofs.Evidence

/-!
# The analysis does not depend on the order of collection

Two contexts that hold the same symbols, references, imports and packages in different orders are laxer than each other,
so each rule reports the same keys in both, and the canonical lists agree place by place.
-/

namespace DeadCode.Context
set_option autoImplicit false

/-- The second context holds what the first one holds in another order: symbols, references, files with imports, the
imports of each file, and packages. All else is the same. -/
structure Reorders (c c' : Context) : Prop where
  symbols : c.table.symbols.Perm c'.table.symbols
  references : c.references.Perm c'.references
  imports : ∃ files, c.imports.Perm files ∧ List.Forall₂ (fun e e' => e.1 = e'.1 ∧ e.2.Perm e'.2) files c'.imports
  dependencies : Option.Rel
    (fun d d' => d.file = d'.file ∧ d.namespaces = d'.namespaces ∧ d.packages.Perm d'.packages)
    c.dependencies c'.dependencies
  settings : c.settings = c'.settings
  root : c.root = c'.root
  frameworkPatterns : c.frameworkPatterns = c'.frameworkPatterns
  frameworkPaths : c.frameworkPaths = c'.frameworkPaths
  entrySymbols : c.entrySymbols = c'.entrySymbols
  entryFiles : c.entryFiles = c'.entryFiles

variable {c c' : Context}

namespace Reorders

theorem laxer (same : c.Reorders c') : c.Laxer c' where
  judged := fun s given => ⟨s, same.symbols.mem_iff.2 given, Or.inl rfl⟩
  kept := fun s given => ⟨s, same.symbols.mem_iff.1 given, Or.inl rfl⟩
  imports := by
    obtain ⟨files, perm, each⟩ := same.imports
    intro e' given' u listed'
    obtain ⟨e, given, file, listed⟩ := (exists_related each).1 e' given'
    exact ⟨e, perm.mem_iff.2 given, file, listed.mem_iff.2 listed'⟩
  dependencies := by
    intro d' given'
    have related := same.dependencies
    generalize c.dependencies = own at related ⊢
    rw [Option.mem_def.1 given'] at related
    cases related with
    | some both => exact ⟨_, rfl, both.1.symm, both.2.1.symm, both.2.2.symm.subset⟩
  rules := by rw [same.settings]
  publicMethods := by rw [same.settings]
  publicConstants := by rw [same.settings]
  root := same.root.symm
  ignorePatterns := by rw [ignorePatterns, ignorePatterns, same.settings, same.frameworkPatterns]; exact fun _ h => h
  ignorePaths := by rw [ignorePaths, ignorePaths, same.settings, same.frameworkPaths]; exact fun _ h => h
  entrySymbols := by rw [same.entrySymbols]; exact fun _ h => h
  entryFiles := by rw [same.settings, same.entryFiles]; exact fun _ h => h
  ignoreDependencies := by rw [same.settings]; exact fun _ h => h

theorem symm (same : c.Reorders c') : c'.Reorders c where
  symbols := same.symbols.symm
  references := same.references.symm
  imports := by
    obtain ⟨files, perm, each⟩ := same.imports
    have back : List.Forall₂ (fun e e' => e.1 = e'.1 ∧ e.2.Perm e'.2) c'.imports files :=
      (each.imp fun _ _ both => ⟨both.1.symm, both.2.symm⟩).flip
    obtain ⟨mid, perm', each'⟩ : Relation.Comp List.Perm
        (List.Forall₂ fun e e' : String × List Import => e.1 = e'.1 ∧ e.2.Perm e'.2) c'.imports c.imports := by
      rw [← List.forall₂_comp_perm_eq_perm_comp_forall₂]
      exact ⟨files, back, perm.symm⟩
    exact ⟨mid, perm', each'⟩
  dependencies := by
    have related := same.dependencies
    generalize c.dependencies = own at related ⊢
    generalize c'.dependencies = other at related ⊢
    cases related with
    | none => exact .none
    | some both => exact .some ⟨both.1.symm, both.2.1.symm, both.2.2.symm⟩
  settings := same.settings.symm
  root := same.root.symm
  frameworkPatterns := same.frameworkPatterns.symm
  frameworkPaths := same.frameworkPaths.symm
  entrySymbols := same.entrySymbols.symm
  entryFiles := same.entryFiles.symm

end Reorders

theorem forall₂_same_iff {is js : List Issue} :
    List.Forall₂ (fun i j => i.same j = true) is js ↔ is.map Issue.key = js.map Issue.key := by
  simp only [Issue.same_iff_key_eq, ← List.forall₂_eq_eq_eq, List.forall₂_map_left_iff, List.forall₂_map_right_iff]

/-- **The order of collection does not matter.** The two analyses fail alike or both succeed, and then their findings
are as many and the same place by place. -/
theorem findings_of_reorders (owned : c.Owned) (same : c.Reorders c') (rules : List String) :
    Outcomes (List.Forall₂ fun i j => i.same j = true) (c.analyze rules) (c'.analyze rules) := by
  have lax := same.laxer
  rw [analyze_eq owned, analyze_eq (lax.owned owned), lax.isUnknown_eq]
  cases rules.find? c.isUnknown with
  | some name => exact rfl
  | none =>
    refine forall₂_same_iff.2 (Issue.map_key_canonical_eq fun k => ⟨fun h => ?_, fun h => ?_⟩)
    · exact same.symm.laxer.mem_flatMap_findingsOf (Rule.shows_of_subset same.references.symm.subset) h
    · exact lax.mem_flatMap_findingsOf (Rule.shows_of_subset same.references.subset) h

/-- A class and its method, a call and an import of each of two names, and two packages. -/
def forward : Context := {
  table := .ofSymbols [
    { kind := .classType, name := "A", file := "a.php", startLine := 2 },
    { kind := .method, name := "m", file := "a.php", startLine := 3, visibility := some "private", owner := some "A" }]
  references := [
    { kind := .functionCall, name := "f", file := "a.php", line := 5 },
    { kind := .methodCall, name := "n", file := "a.php", line := 6 }]
  imports := [
    ("a.php", [{ fqn := "X\\Y", asName := "Y", line := 1 }, { fqn := "X\\Z", asName := "Z", line := 1 }]), ("b.php", [])]
  dependencies := some { file := "composer.json", packages := [⟨"p/p", false⟩, ⟨"q/q", true⟩] } }

/-- The same in the opposite order. -/
def backward : Context := {
  table := .ofSymbols [
    { kind := .method, name := "m", file := "a.php", startLine := 3, visibility := some "private", owner := some "A" },
    { kind := .classType, name := "A", file := "a.php", startLine := 2 }]
  references := [
    { kind := .methodCall, name := "n", file := "a.php", line := 6 },
    { kind := .functionCall, name := "f", file := "a.php", line := 5 }]
  imports := [
    ("b.php", []), ("a.php", [{ fqn := "X\\Z", asName := "Z", line := 1 }, { fqn := "X\\Y", asName := "Y", line := 1 }])]
  dependencies := some { file := "composer.json", packages := [⟨"q/q", true⟩, ⟨"p/p", false⟩] } }

theorem findings_of_backward : forward.Owned ∧ forward.Reorders backward ∧ ∀ rules : List String,
    Outcomes (List.Forall₂ fun i j => i.same j = true) (forward.analyze rules) (backward.analyze rules) := by
  have owned : forward.Owned := by
    intro s given member
    simp only [forward, SymbolTable.ofSymbols, List.mem_cons, List.not_mem_nil, or_false] at given
    rcases given with rfl | rfl
    · cases member
    · rfl
  have same : forward.Reorders backward := {
    symbols := .swap _ _ _
    references := .swap _ _ _
    imports := ⟨_, .swap _ _ _, .cons ⟨rfl, .refl _⟩ (.cons ⟨rfl, .swap _ _ _⟩ .nil)⟩
    dependencies := .some ⟨rfl, rfl, .swap _ _ _⟩
    settings := rfl
    root := rfl
    frameworkPatterns := rfl
    frameworkPaths := rfl
    entrySymbols := rfl
    entryFiles := rfl }
  exact ⟨owned, same, findings_of_reorders owned same⟩

end DeadCode.Context
