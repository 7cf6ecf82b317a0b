import DeadCode.Proofs.Reordering

/-!
# Two runs over the same code

`c.withReferences rs` is the context `c` with other references in it. What is judged, and in which order, does not depend
on references. So if all the uses that a rule looks for are seen in both of two such contexts, its findings are not only
the same set but the same list, place by place (`sameFindings_of_shows`).
-/

namespace DeadCode
set_option autoImplicit false

namespace Context

/-- The same code and settings with other references. -/
def withReferences (c : Context) (rs : List Reference) : Context := { c with references := rs }

/-- The rule gives its findings in both contexts, and they are as many and the same place by place. -/
def SameFindings (c c' : Context) (rule : Rule) : Prop :=
  ∃ found found', c.runRule rule.label = .ok found ∧ c'.runRule rule.label = .ok found' ∧
    List.Forall₂ (fun i j => i.same j = true) found found'

theorem laxer_withReferences (c : Context) (rs rs' : List Reference) :
    (c.withReferences rs).Laxer (c.withReferences rs') where
  judged := fun s given => ⟨s, given, Or.inl rfl⟩
  kept := fun s given => ⟨s, given, Or.inl rfl⟩
  imports := fun e given _ listed => ⟨e, given, rfl, listed⟩
  dependencies := fun d given => ⟨d, given, rfl, rfl, fun _ listed => listed⟩
  rules := rfl
  publicMethods := rfl
  publicConstants := rfl
  root := rfl
  ignorePatterns := fun _ given => given
  ignorePaths := fun _ given => given
  entrySymbols := fun _ given => given
  entryFiles := fun _ given => given
  ignoreDependencies := fun _ given => given

end Context

namespace Rule

theorem map_key_symbolFindings (rule : Rule) (c : Context) (severity : Severity) :
    (rule.symbolFindings c severity).map Issue.key =
      ((c.table.ofKinds rule.kinds).filter (rule.isUnused c)).map rule.symbolKey := by
  rw [symbolFindings, List.map_map]
  rfl

section BothShow

variable {c : Context} {rs rs' : List Reference} {rule : Rule}
  (there : rule.Shows (c.withReferences rs) (c.withReferences rs'))
  (back : rule.Shows (c.withReferences rs') (c.withReferences rs))

include there back

theorem isUnused_withReferences (s : Symbol) :
    rule.isUnused (c.withReferences rs) s = rule.isUnused (c.withReferences rs') s := by
  rw [Bool.eq_iff_iff]
  constructor
  · exact (c.laxer_withReferences rs' rs).isUnused_antitone back (Or.inl rfl)
  · exact (c.laxer_withReferences rs rs').isUnused_antitone there (Or.inl rfl)

theorem symbolFindings_withReferences (severity : Severity) :
    (rule.symbolFindings (c.withReferences rs) severity).map Issue.key =
      (rule.symbolFindings (c.withReferences rs') severity).map Issue.key := by
  rw [map_key_symbolFindings, map_key_symbolFindings]
  exact congrArg (List.map rule.symbolKey) (List.filter_congr fun s _ => isUnused_withReferences there back s)

end BothShow

variable {c : Context} {rs rs' : List Reference} (severity : Severity)

theorem checkImports_withReferences (there : imports.Shows (c.withReferences rs) (c.withReferences rs'))
    (back : imports.Shows (c.withReferences rs') (c.withReferences rs)) :
    checkImports (c.withReferences rs) severity = checkImports (c.withReferences rs') severity := by
  have used : ∀ file u, isImportUsed (namesUsedIn (c.withReferences rs) file) u =
      isImportUsed (namesUsedIn (c.withReferences rs') file) u := by
    intro file u
    rw [Bool.eq_iff_iff]
    exact ⟨Context.Laxer.isImportUsed_mono (there file), Context.Laxer.isImportUsed_mono (back file)⟩
  have each : ∀ file us, checkFileImports (c.withReferences rs) severity file us =
      checkFileImports (c.withReferences rs') severity file us := by
    intro file us
    simp only [checkFileImports, used]
    rfl
  simp only [checkImports, each]
  rfl

theorem checkFiles_withReferences (there : files.Shows (c.withReferences rs) (c.withReferences rs'))
    (back : files.Shows (c.withReferences rs') (c.withReferences rs)) :
    checkFiles (c.withReferences rs) severity = checkFiles (c.withReferences rs') severity := by
  have keeps : keepsFile (c.withReferences rs) (ClassUsage.of (c.withReferences rs))
        (c.withReferences rs).calledFunctions (c.withReferences rs).readConstants =
      keepsFile (c.withReferences rs') (ClassUsage.of (c.withReferences rs'))
        (c.withReferences rs').calledFunctions (c.withReferences rs').readConstants := by
    funext s
    rw [Bool.eq_iff_iff]
    constructor
    · exact (c.laxer_withReferences rs rs').keepsFile_mono there (Or.inl rfl)
    · exact (c.laxer_withReferences rs' rs).keepsFile_mono back (Or.inl rfl)
  simp only [checkFiles, keeps]
  rfl

theorem checkDependencies_withReferences (there : dependencies.Shows (c.withReferences rs) (c.withReferences rs'))
    (back : dependencies.Shows (c.withReferences rs') (c.withReferences rs)) :
    checkDependencies (c.withReferences rs) severity = checkDependencies (c.withReferences rs') severity := by
  have used : ∀ d n, (usedPackages (c.withReferences rs) d).contains n =
      (usedPackages (c.withReferences rs') d).contains n := by
    intro d n
    rw [Bool.eq_iff_iff, List.contains_iff_mem, List.contains_iff_mem]
    exact ⟨fun h => there d d rfl h, fun h => back d d rfl h⟩
  simp only [checkDependencies, used]
  rfl

theorem map_key_findings_withReferences {rule : Rule}
    (there : rule.Shows (c.withReferences rs) (c.withReferences rs'))
    (back : rule.Shows (c.withReferences rs') (c.withReferences rs)) :
    (rule.findings (c.withReferences rs) severity).map Issue.key =
      (rule.findings (c.withReferences rs') severity).map Issue.key := by
  cases rule with
  | imports => exact congrArg (List.map Issue.key) (checkImports_withReferences severity there back)
  | files => exact congrArg (List.map Issue.key) (checkFiles_withReferences severity there back)
  | dependencies => exact congrArg (List.map Issue.key) (checkDependencies_withReferences severity there back)
  | _ => exact symbolFindings_withReferences there back severity

end Rule

namespace Context

variable {c : Context} {rs : List Reference} {rule : Rule}

/-- **Two runs over the same code.** If the references of the two runs show a rule the same uses, its findings are the
same. -/
theorem sameFindings_of_shows (owned : c.Owned) (there : rule.Shows c (c.withReferences rs))
    (back : rule.Shows (c.withReferences rs) c) : c.SameFindings (c.withReferences rs) rule := by
  have same : (c.withReferences rs).severity rule.label = c.severity rule.label := rfl
  cases on : c.severity rule.label with
  | none => exact ⟨[], [], runRule_label_of_off on, runRule_label_of_off (same.trans on), .nil⟩
  | some severity =>
    refine ⟨_, _, (runRule_label on).trans (Rule.check_eq owned rule),
      (runRule_label (same.trans on)).trans (Rule.check_eq (c := c.withReferences rs) owned rule), ?_⟩
    have keys : (rule.findings (c.withReferences c.references) severity).map Issue.key =
        (rule.findings (c.withReferences rs) severity).map Issue.key :=
      Rule.map_key_findings_withReferences severity there back
    exact forall₂_same_iff.2 keys

end Context
end DeadCode
