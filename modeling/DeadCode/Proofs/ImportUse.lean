import DeadCode.Proofs.QualifiedNames
import DeadCode.Proofs.Verdicts
import DeadCode.Scope

/-!
# Imports and the names that use them

The resolver puts the imported name in place of an alias, and the rule about imports looks for that name, or one below
it, among the names that a file uses. The two meet: an import is not reported in a file with a reference to what a
written name with its alias stands for (`import_not_reported`). The main step is that such a name always stands for the
imported name or for one within it (`within_resolve_of_usedAs`).
-/

namespace DeadCode
set_option autoImplicit false

namespace Name

/-- The full name itself, or a name below it. -/
def Within (full name : String) : Prop := name = full ∨ ∃ rest, name = full ++ "\\" ++ rest

theorem Within.ne_empty {full name : String} (within : Within full name) (named : full ≠ "") : name ≠ "" := by
  rcases within with rfl | ⟨rest, rfl⟩
  · exact named
  · simp

end Name

/-- What an import brings in. -/
inductive ImportKind where
  | classes
  | functions
  | constants
  deriving DecidableEq

/-- The spelling in which aliases of a kind are compared. Only those of constants tell capitals from small letters. -/
def ImportKind.spelling : ImportKind → String → String
  | constants => id
  | _ => Text.lower

namespace Import

/-- What the import brings in; a kind that is neither of the other two counts as a class. -/
def brings (u : Import) : ImportKind :=
  if u.kind == "function" then .functions else if u.kind == "constant" then .constants else .classes

/-- An import of the same kind that takes over the alias of an earlier one. -/
def Overrides (v u : Import) : Prop :=
  v.brings = u.brings ∧ u.brings.spelling v.asName = u.brings.spelling u.asName

/-- A written name, blanks aside, that uses the import. For a class it starts with the alias, which is none of the words
for a class or namespace at hand, and is not rooted. For a function or a constant it is the alias. -/
def UsedAs (u : Import) (raw : String) : Prop :=
  match u.brings with
  | .classes =>
    Text.startsWith (Name.clean raw) "\\" = false ∧
      Text.lower (Name.cutFirst (Name.clean raw)).1 = Text.lower u.asName ∧
      Text.lower (Name.cutFirst (Name.clean raw)).1 ∉ ["self", "static", "parent", "namespace"]
  | kind => '\\' ∉ (Name.clean raw).toList ∧ kind.spelling (Name.clean raw) = kind.spelling u.asName

end Import

namespace Scope

/-- The aliases of a kind that are in force. -/
def aliases (s : Scope) : ImportKind → List (String × String)
  | .classes => s.classAliases
  | .functions => s.functionAliases
  | .constants => s.constantAliases

/-- The full name of a class, function or constant. -/
def resolve (s : Scope) : ImportKind → String → String
  | .classes => s.resolveClass
  | .functions => s.resolveFunction
  | .constants => s.resolveConstant

theorem aliases_withImport (s : Scope) (u : Import) (kind : ImportKind) :
    (s.withImport u).aliases kind =
      if u.brings = kind then Assoc.set (s.aliases kind) (kind.spelling u.asName) u.fqn else s.aliases kind := by
  unfold withImport Import.brings
  split
  · cases kind <;> rfl
  · split
    · cases kind <;> rfl
    · cases kind <;> rfl

/-- An import holds its alias until a later one takes it over. -/
theorem get?_aliases_withImports (s : Scope) {u : Import} (before : List Import) {after : List Import}
    (latest : ∀ v ∈ after, ¬v.Overrides u) :
    Assoc.get? ((s.withImports (before ++ u :: after)).aliases u.brings) (u.brings.spelling u.asName) = some u.fqn := by
  have keep : ∀ s : Scope, Assoc.get? (s.aliases u.brings) (u.brings.spelling u.asName) = some u.fqn →
      Assoc.get? ((s.withImports after).aliases u.brings) (u.brings.spelling u.asName) = some u.fqn := by
    induction after with
    | nil => exact fun s held => held
    | cons v after ih =>
      intro s held
      refine ih (fun w later => latest w (List.mem_cons_of_mem _ later)) (s.withImport v) ?_
      rw [aliases_withImport]
      split
      · next same =>
        have other : u.brings.spelling u.asName ≠ u.brings.spelling v.asName := fun eq =>
          latest v List.mem_cons_self ⟨same, eq.symm⟩
        rwa [Assoc.get?_set_of_ne _ _ other]
      · exact held
  rw [withImports, List.foldl_append, List.foldl_cons]
  refine keep _ ?_
  rw [aliases_withImport, if_pos rfl, Assoc.get?_set_self]

theorem present_of_ne {full : String} (named : full ≠ "") : present (some full) = some full := by
  simp [present, Option.filter, named]

/-- A name whose first segment is a class alias, and none of the words for a class or namespace at hand, stands for the
imported name with the other segments below it. -/
theorem resolveClass_of_alias {s : Scope} {raw full : String} (relative : Text.startsWith (Name.clean raw) "\\" = false)
    (plain : Text.lower (Name.cutFirst (Name.clean raw)).1 ∉ ["self", "static", "parent", "namespace"])
    (held : Assoc.get? s.classAliases (Text.lower (Name.cutFirst (Name.clean raw)).1) = some full)
    (named : full ≠ "") : Name.Within full (s.resolveClass raw) := by
  simp only [List.mem_cons, List.not_mem_nil, or_false, not_or, Name.lower_cutFirst] at plain
  obtain ⟨notSelf, notStatic, notParent, notNamespace⟩ := plain
  -- Each word that is treated apart would be the first segment.
  have noSelf : Text.lower (Name.clean raw) ≠ "self" := fun eq => notSelf (by rw [eq]; rfl)
  have noStatic : Text.lower (Name.clean raw) ≠ "static" := fun eq => notStatic (by rw [eq]; rfl)
  have noParent : Text.lower (Name.clean raw) ≠ "parent" := fun eq => notParent (by rw [eq]; rfl)
  have noNamespace : Text.startsWith (Text.lower (Name.clean raw)) "namespace\\" = false := by
    refine Bool.eq_false_iff.2 fun starts => notNamespace ?_
    obtain ⟨rest, eq⟩ := List.isPrefixOf_iff_prefix.1 starts
    have split : Text.lower (Name.clean raw) = "namespace" ++ "\\" ++ String.ofList rest := by
      rw [← String.toList_inj, ← eq]
      simp
    rw [split, Name.cutFirst_qualified (by decide)]
  simp only [resolveClass, noSelf, noStatic, noParent, noNamespace, relative, held, present_of_ne named, beq_iff_eq,
    Bool.or_eq_true, or_self, Bool.false_eq_true, if_false]
  cases (Name.cutFirst (Name.clean raw)).2 with
  | none => exact Or.inl rfl
  | some rest => exact Or.inr ⟨rest, rfl⟩

theorem resolveWith_of_alias (s : Scope) (aliases : List (String × String)) (key : String → String) {raw full : String}
    (single : '\\' ∉ (Name.clean raw).toList) (held : Assoc.get? aliases (key (Name.clean raw)) = some full)
    (named : full ≠ "") : s.resolveWith aliases key raw = full := by
  have relative : Text.startsWith (Name.clean raw) "\\" = false := by
    refine Bool.eq_false_iff.2 fun starts => single ?_
    exact (List.isPrefixOf_iff_prefix.1 starts).subset List.mem_cons_self
  simp [resolveWith, relative, single, held, present_of_ne named]

/-- What a written name with the alias of an import stands for is the imported name or a name below it. -/
theorem within_resolve_of_usedAs (s : Scope) {u : Import} (before : List Import) {after : List Import}
    (latest : ∀ v ∈ after, ¬v.Overrides u) (named : u.fqn ≠ "") {raw : String} (used : u.UsedAs raw) :
    Name.Within u.fqn ((s.withImports (before ++ u :: after)).resolve u.brings raw) := by
  have held := get?_aliases_withImports s before latest
  unfold Import.UsedAs at used
  cases kind : u.brings with
  | classes =>
    simp only [kind, ImportKind.spelling, aliases, resolve] at used held ⊢
    rw [← used.2.1] at held
    exact resolveClass_of_alias used.1 used.2.2 held named
  | functions =>
    simp only [kind, ImportKind.spelling, aliases, resolve] at used held ⊢
    rw [← used.2] at held
    exact Or.inl (resolveWith_of_alias _ _ Text.lower used.1 held named)
  | constants =>
    simp only [kind, ImportKind.spelling, aliases, resolve, id] at used held ⊢
    rw [← used.2] at held
    exact Or.inl (resolveWith_of_alias _ _ (fun n => n) used.1 held named)

end Scope

namespace Rule

/-- A name within the imported one is a use of the import. -/
theorem isImportUsed_of_within {used : List String} {u : Import} {name : String} (within : Name.Within u.fqn name)
    (given : Text.lower name ∈ used) : isImportUsed used u = true := by
  refine List.any_eq_true.2 ⟨_, given, ?_⟩
  simp only [Bool.or_eq_true]
  rcases within with rfl | ⟨rest, rfl⟩
  · exact Or.inl (Or.inl (beq_self_eq_true _))
  · refine Or.inl (Or.inr (List.isPrefixOf_iff_prefix.2 ?_))
    rw [Text.lower_qualified, String.toList_append (t := Text.lower rest)]
    exact List.prefix_append _ _

theorem lower_mem_namesUsedIn {c : Context} {r : Reference} {name : String} (given : r ∈ c.references)
    (known : r.isDynamic = false) (proper : r.kind.isImport = false) (named : name ≠ "")
    (speaks : r.name = name ∨ r.parent = some name) : Text.lower name ∈ namesUsedIn c r.file := by
  refine mem_namesUsedIn.2 ⟨r, given, rfl, known, proper, ?_⟩
  rcases speaks with rfl | parent
  · exact List.mem_cons_self
  · simp [Reference.parent?, parent, Option.filter, named]

end Rule

namespace Context

variable {c : Context} {r : Reference} {u : Import} {full : String}

/-- A known reference to a name within an imported one keeps the rule about imports from reporting it in that file. -/
theorem not_reported_of_within (within : Name.Within u.fqn full) (named : u.fqn ≠ "") (given : r ∈ c.references)
    (known : r.isDynamic = false) (proper : r.kind.isImport = false) (speaks : r.name = full ∨ r.parent = some full) :
    ∃ found, c.runRule Rule.imports.label = .ok found ∧ ∀ i ∈ found, i.file = r.file → i.symbol ≠ u.fqn := by
  have mem := Rule.lower_mem_namesUsedIn given known proper (within.ne_empty named) speaks
  cases on : c.severity Rule.imports.label with
  | none =>
    refine ⟨[], ?_, by simp⟩
    simp only [runRule, Rule.ofLabel?_label, on]
  | some severity =>
    refine ⟨_, runRule_label on, fun i reported file symbol => ?_⟩
    obtain ⟨e, -, -, v, -, unused, -, key⟩ := Rule.mem_checkImports.1 (List.mem_map_of_mem (f := Issue.key) reported)
    simp only [Issue.key, EmbeddingLike.apply_eq_iff_eq, Prod.mk.injEq] at key
    obtain ⟨file', -, -, symbol'⟩ := key
    -- An import of the same name is used by the same reference, whatever its alias.
    rw [← symbol'.trans symbol] at within
    rw [file'.trans file, Rule.isImportUsed_of_within within mem] at unused
    cases unused

/-- **A used import is not reported.** Let an import with a name hold its alias in a list of imports. If a file has a
known reference, other than an import, to what a written name with that alias stands for under these imports in any
namespace, then the rule about imports has no finding about the imported name in that file. -/
theorem import_not_reported {before after : List Import} {space raw : String} (named : u.fqn ≠ "")
    (latest : ∀ v ∈ after, ¬v.Overrides u) (used : u.UsedAs raw)
    (resolved : (({ space := space } : Scope).withImports (before ++ u :: after)).resolve u.brings raw = full)
    (given : r ∈ c.references) (known : r.isDynamic = false) (proper : r.kind.isImport = false)
    (speaks : r.name = full ∨ r.parent = some full) :
    ∃ found, c.runRule Rule.imports.label = .ok found ∧ ∀ i ∈ found, i.file = r.file → i.symbol ≠ u.fqn := by
  have within : Name.Within u.fqn full := resolved ▸ Scope.within_resolve_of_usedAs _ before latest named used
  exact not_reported_of_within within named given known proper speaks

/-- An import whose alias is taken over. -/
def earlyImport : Import := { fqn := "Lib\\Old", asName := "Tool", line := 2, explicitAlias := true }

/-- The import that takes it over. -/
def lateImport : Import := { fqn := "Vendor\\Kit", asName := "tool", line := 3, explicitAlias := true }

/-- An import of another kind, which leaves the alias of the class alone. -/
def functionImport : Import := { fqn := "Vendor\\run", asName := "Tool", line := 4, kind := "function" }

/-- A use of a name below the imported class. -/
def partHint : Reference := { kind := .typeHint, name := "Vendor\\Kit\\Part", file := "a.php", line := 9 }

/-- A file with the three imports and the use. -/
def toolUser : Context := {
  references := [partHint], imports := [("a.php", [earlyImport, lateImport, functionImport])] }

theorem late_not_reported :
    lateImport.fqn ≠ "" ∧ (∀ v ∈ [functionImport], ¬v.Overrides lateImport) ∧ lateImport.UsedAs "TOOL\\Part" ∧
      (({ space := "App" } : Scope).withImports ([earlyImport] ++ lateImport :: [functionImport])).resolve
        lateImport.brings "TOOL\\Part" = "Vendor\\Kit\\Part" ∧
      partHint ∈ toolUser.references ∧ partHint.isDynamic = false ∧ partHint.kind.isImport = false ∧
      ∃ found, toolUser.runRule Rule.imports.label = .ok found ∧
        ∀ i ∈ found, i.file = partHint.file → i.symbol ≠ lateImport.fqn := by
  have named : lateImport.fqn ≠ "" := by decide
  have latest : ∀ v ∈ [functionImport], ¬v.Overrides lateImport := by
    intro v given overrides
    rw [List.mem_singleton.1 given] at overrides
    exact absurd overrides.1 (by decide)
  have used : lateImport.UsedAs "TOOL\\Part" := ⟨by decide +kernel, by decide +kernel, by decide +kernel⟩
  have resolved : (({ space := "App" } : Scope).withImports ([earlyImport] ++ lateImport :: [functionImport])).resolve
      lateImport.brings "TOOL\\Part" = "Vendor\\Kit\\Part" := by decide +kernel
  exact ⟨named, latest, used, resolved, List.mem_cons_self, rfl, rfl,
    import_not_reported named latest used resolved List.mem_cons_self rfl rfl (Or.inl rfl)⟩

end Context
end DeadCode
