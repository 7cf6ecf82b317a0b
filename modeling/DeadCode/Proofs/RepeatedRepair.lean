import DeadCode.Proofs.BottomUp

/-!
# Repairing the same issue again

A repair does not look back: what stands at the line of its issue is all that counts. After a repair another line has moved
there, and `lineBelow?` says which one. So a second repair of the issue removes that line exactly if it is an import that
the symbol of the issue names as well (`repairImport_again_iff`); otherwise it leaves the text as it is.
-/

namespace DeadCode.Fix
set_option autoImplicit false

variable {i : Issue} {lines : List String} {k : Nat}

/-- Does the line hold one import and nothing else, and does the symbol of the issue name it? -/
def isImportOf (i : Issue) (line : String) : Bool :=
  (Text.startsWith (Text.strip line) "use " || Text.startsWith (Text.strip line) "use\t") &&
    (importOn? (Text.strip line)).any fun found => namesImport found.1 found.2 i.symbol

/-- A line is removed exactly if it holds an import of the issue. -/
theorem repairLine_status_iff (i : Issue) (before : List String) (line : String) (after : List String) :
    (repairLine i before line after).status = .fixed ↔ isImportOf i line = true := by
  cases use : Text.startsWith (Text.strip line) "use " || Text.startsWith (Text.strip line) "use\t" with
  | false => simp [repairLine, isImportOf, use, Outcome.failed]
  | true =>
    cases found : importOn? (Text.strip line) with
    | none => simp [repairLine, isImportOf, use, found, Outcome.skipped]
    | some parts =>
      cases named : namesImport parts.1 parts.2 i.symbol with
      | false => simp [repairLine, isImportOf, use, found, named, Outcome.skipped]
      | true => simp [repairLine, isImportOf, use, found, named, Outcome.fixed]

theorem isImportOf_empty (i : Issue) : isImportOf i "" = false := by
  have other : (Text.startsWith (Text.strip "") "use " || Text.startsWith (Text.strip "") "use\t") = false := by decide
  rw [isImportOf, other, Bool.false_and]

/-- A repair is made exactly if the line of the issue is there and holds an import of it. -/
theorem status_repairImport_join (place : i.line = k + 1) (nonempty : lines ≠ []) (free : ∀ l ∈ lines, '\n' ∉ l.toList) :
    (repairImport i (Text.join "\n" lines)).status = .fixed ↔ ∃ line, lines[k]? = some line ∧ isImportOf i line = true := by
  rw [repairImport_join place nonempty free]
  cases lines[k]? with
  | none => simp [Outcome.failed]
  | some line => simp [repairLine_status_iff]

/-- What a repair leaves: the lines above, and those below without the blank ones that would widen a gap. -/
theorem newText_repairImport_join (place : i.line = k + 1) (nonempty : lines ≠ []) (free : ∀ l ∈ lines, '\n' ∉ l.toList)
    {new : String} (repaired : (repairImport i (Text.join "\n" lines)).newText = some new) :
    k < lines.length ∧ new = Text.join "\n" (withoutLine (lines.take k) (lines.drop (k + 1))) := by
  rw [repairImport_join place nonempty free] at repaired
  split at repaired
  · next line found =>
    refine ⟨(List.getElem?_eq_some_iff.1 found).1, ?_⟩
    rcases repairLine_cases i line with ⟨message, eq⟩ | ⟨o, -, -, none, eq⟩
    · rw [eq, Outcome.fixed] at repaired
      exact (Option.some.inj repaired).symm
    · rw [eq, none] at repaired
      cases repaired
  · cases repaired

/-- The line that comes to stand where a line is removed: the next one, or after a blank line the next one that is not
blank. -/
def lineBelow? (lines : List String) (k : Nat) : Option String :=
  if blankBefore lines k then (lines.drop (k + 1)).find? (!isBlankLine ·) else lines[k + 1]?

theorem getElem?_withoutLine (h : k < lines.length) :
    (withoutLine (lines.take k) (lines.drop (k + 1)))[k]? = lineBelow? lines k := by
  have above : (lines.take k).length = k := List.length_take_of_le h.le
  rw [withoutLine, List.getElem?_append_right above.le, above, Nat.sub_self, ← List.head?_eq_getElem?,
    closeGap_take h.le, lineBelow?]
  split
  · exact (List.find?_not_eq_head?_dropWhile _ _).symm
  · exact List.head?_drop

theorem withoutLine_subset (lines : List String) (k : Nat) :
    withoutLine (lines.take k) (lines.drop (k + 1)) ⊆ lines := by
  refine List.append_subset.2 ⟨List.take_subset k lines, List.Subset.trans ?_ (List.drop_subset (k + 1) lines)⟩
  rw [closeGap]
  split
  · split
    · exact (List.dropWhile_suffix _).subset
    · exact List.Subset.refl _
  · exact List.Subset.refl _

/-- **When a repair can be repeated.** After a repair the same issue is repaired again exactly if the line that has come to
stand in the place of the removed one is an import that the symbol of the issue names. -/
theorem repairImport_again_iff {text new : String}
    (repaired : (repairImport i text).status = .fixed ∧ (repairImport i text).newText = some new) :
    (repairImport i new).status = .fixed ↔
      ∃ line, lineBelow? (Text.splitAt '\n' text) (i.line - 1).toNat = some line ∧ isImportOf i line = true := by
  have positive : 0 < i.line := by
    by_contra none
    have low : i.line < 1 := by omega
    simp [repairImport, low, Outcome.failed] at repaired
  obtain ⟨k, place⟩ : ∃ k : Nat, i.line = k + 1 := ⟨(i.line - 1).toNat, by omega⟩
  have index : (i.line - 1).toNat = k := by omega
  have whole : Text.join "\n" (Text.splitAt '\n' text) = text := Text.join_splitAt rfl text
  have nonempty := Text.splitAt_ne_nil '\n' text
  have free : ∀ l ∈ Text.splitAt '\n' text, '\n' ∉ l.toList := fun l => Text.not_mem_of_mem_splitAt
  rw [index]
  rw [← whole] at repaired
  generalize Text.splitAt '\n' text = lines at *
  obtain ⟨there, rfl⟩ := newText_repairImport_join place nonempty free repaired.2
  by_cases left : withoutLine (lines.take k) (lines.drop (k + 1)) = []
  · -- The only line is gone, and the text that is left has one line without anything on it.
    have below : lineBelow? lines k = none := by rw [← getElem?_withoutLine there, left, List.getElem?_nil]
    have single : Text.join "\n" [] = Text.join "\n" [""] := rfl
    rw [left, single, status_repairImport_join place (List.cons_ne_nil _ _) (by simp), below]
    constructor
    · rintro ⟨line, found, imports⟩
      obtain rfl : line = "" := by simpa using List.mem_of_getElem? found
      rw [isImportOf_empty] at imports
      cases imports
    · rintro ⟨line, found, -⟩
      cases found
  · have free' : ∀ l ∈ withoutLine (lines.take k) (lines.drop (k + 1)), '\n' ∉ l.toList := fun l mem =>
      free l (withoutLine_subset lines k mem)
    rw [status_repairImport_join place left free', getElem?_withoutLine there]

/-- An import between blank lines, and another one below. -/
def spacedText : String := "<?php\n\nuse A\\B;\n\nuse A\\C;\n"

/-- The issue of the first import. -/
def spacedIssue : Issue := ⟨Rule.imports.label, "A\\B", "a.php", 3, .warning, "", none⟩

theorem repairImport_again_spaced :
    lineBelow? (Text.splitAt '\n' spacedText) 2 = some "use A\\C;" ∧
      (repairImport spacedIssue spacedText).status = .fixed ∧
      (repairImport spacedIssue spacedText).newText = some "<?php\n\nuse A\\C;\n" ∧
      (repairImport spacedIssue "<?php\n\nuse A\\C;\n").status ≠ .fixed := by
  have below : lineBelow? (Text.splitAt '\n' spacedText) 2 = some "use A\\C;" := by decide +kernel
  have fixed : (repairImport spacedIssue spacedText).status = .fixed := by decide +kernel
  have left : (repairImport spacedIssue spacedText).newText = some "<?php\n\nuse A\\C;\n" := by decide +kernel
  refine ⟨below, fixed, left, fun again => ?_⟩
  obtain ⟨line, moved, imports⟩ := (repairImport_again_iff ⟨fixed, left⟩).1 again
  obtain rfl : "use A\\C;" = line := Option.some.inj (below.symm.trans moved)
  exact absurd imports (by decide +kernel)

/-- An unused import, and below it one of another name that ends in the same way. -/
def suffixText : String := "<?php\nuse A\\B;\nuse X\\A\\B as C;\n"

/-- The issue of the first import. -/
def suffixIssue : Issue := ⟨Rule.imports.label, "A\\B", "a.php", 2, .warning, "", none⟩

/-- The second repair removes an import that was never reported. -/
theorem repairImport_again_suffix :
    (repairImport suffixIssue suffixText).status = .fixed ∧
      (repairImport suffixIssue suffixText).newText = some "<?php\nuse X\\A\\B as C;\n" ∧
      (repairImport suffixIssue "<?php\nuse X\\A\\B as C;\n").status = .fixed ∧
      (repairImport suffixIssue "<?php\nuse X\\A\\B as C;\n").newText = some "<?php\n" := by
  decide +kernel

end DeadCode.Fix
