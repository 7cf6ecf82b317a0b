import DeadCode.Fix.Session
import DeadCode.Proofs.Lines
import Mathlib.Data.Prod.Lex
import Mathlib.Data.String.Basic

/-!
# Repairing a file from its end to its start

A repair looks at one line and changes nothing above it. So a batch whose lines are taken in falling order treats every
line as it was before the batch: each issue ends as it would alone, and the text loses exactly the lines of the repaired
issues and the blank lines that collapse onto them. `repairAll` is such a batch on a text alone; `fixAll_eq_repairAll`
brings it to sessions, and `repairAll_descending` is the run lemma.
-/

namespace DeadCode.Fix
set_option autoImplicit false

section Repair

variable {i : Issue} {lines : List String} {removed : Nat → Bool} {k : Nat}

/-- A repair removes its line or leaves the text alone, and which of the two depends on the line alone. -/
theorem repairLine_cases (i : Issue) (line : String) :
    (∃ message, ∀ before after,
      repairLine i before line after = .fixed i (Text.join "\n" (withoutLine before after)) message [i.line]) ∨
    ∃ o : Outcome, o.issue = i ∧ o.status ≠ .fixed ∧ o.newText = none ∧
      ∀ before after, repairLine i before line after = o := by
  by_cases use : Text.startsWith (Text.strip line) "use " || Text.startsWith (Text.strip line) "use\t"
  · cases found : importOn? (Text.strip line) with
    | none => exact Or.inr ⟨.skipped i _, rfl, nofun, rfl, fun _ _ => by simp only [repairLine, use, found]; rfl⟩
    | some parts =>
      cases named : namesImport parts.1 parts.2 i.symbol
      · exact Or.inr ⟨.skipped i _, rfl, nofun, rfl, fun _ _ => by simp only [repairLine, use, found, named]; rfl⟩
      · exact Or.inl ⟨_, fun _ _ => by simp only [repairLine, use, found, named]; rfl⟩
  · rw [Bool.not_eq_true] at use
    exact Or.inr ⟨.failed i _, rfl, nofun, rfl, fun _ _ => by simp only [repairLine, use]; rfl⟩

theorem repairImport_join (place : i.line = k + 1) (nonempty : lines ≠ []) (free : ∀ l ∈ lines, '\n' ∉ l.toList) :
    repairImport i (Text.join "\n" lines) =
      match lines[k]? with
      | some line => repairLine i (lines.take k) line (lines.drop (k + 1))
      | none => .failed i ("Line " ++ toString i.line ++ " does not exist") := by
  have index : (i.line - 1).toNat = k := by omega
  have positive : ¬i.line < 1 := by omega
  have cut : Text.splitAt '\n' (Text.join "\n" lines) = lines := Text.splitAt_join (by decide) nonempty free
  cases found : lines[k]? with
  | none => simp only [repairImport, cut, index, if_neg positive, found]
  | some line => simp only [repairImport, cut, index, if_neg positive, found]

theorem issue_repairImport (i : Issue) (text : String) : (repairImport i text).issue = i := by
  rw [repairImport]
  split
  · next line _ =>
    rcases repairLine_cases i line with ⟨message, eq⟩ | ⟨o, same, -, -, eq⟩
    · rw [eq, Outcome.fixed]
    · rw [eq, same]
  · rfl

/-- A repaired issue comes with the new text, and only such a one. -/
theorem isSome_newText_repairImport (i : Issue) (text : String) :
    (repairImport i text).newText.isSome = ((repairImport i text).status == .fixed) := by
  rw [repairImport]
  split
  · next line _ =>
    rcases repairLine_cases i line with ⟨message, eq⟩ | ⟨o, -, other, none, eq⟩
    · rw [eq, Outcome.fixed]
      rfl
    · simp [eq, none, other]
  · rfl

/-- A repair at a line that is still as it was, with all that stands above it: it ends as it does in the first text, and
what it leaves is what stays of the lines from there on. -/
theorem repairImport_sweepFrom (place : i.line = k + 1) (nonempty : lines ≠ []) (free : ∀ l ∈ lines, '\n' ∉ l.toList)
    (gone : removed k = true ↔ (repairImport i (Text.join "\n" lines)).status = .fixed) {text : String}
    (h : text = Text.join "\n" (lines.take (k + 1) ++ sweepFrom lines removed (k + 1))) :
    (repairImport i text).status = (repairImport i (Text.join "\n" lines)).status ∧
      (repairImport i text).newText.getD text = Text.join "\n" (lines.take k ++ sweepFrom lines removed k) := by
  have nonempty' : lines.take (k + 1) ++ sweepFrom lines removed (k + 1) ≠ [] := by simp [nonempty]
  have free' : ∀ l ∈ lines.take (k + 1) ++ sweepFrom lines removed (k + 1), '\n' ∉ l.toList := fun l mem =>
    (List.mem_append.1 mem).elim (fun above => free l (List.mem_of_mem_take above)) fun below =>
      free l (sweepFrom_subset below)
  have kept : removed k = false → text = Text.join "\n" (lines.take k ++ sweepFrom lines removed k) := fun kept => by
    rw [h, take_append_sweepFrom kept]
  subst h
  rw [repairImport_join place nonempty free] at gone ⊢
  rw [repairImport_join place nonempty' free']
  rcases Nat.lt_or_ge k lines.length with lt | ge
  · have taken : (lines.take (k + 1)).length = k + 1 := List.length_take_of_le lt
    have here : (lines.take (k + 1) ++ sweepFrom lines removed (k + 1))[k]? = some lines[k] := by
      rw [List.getElem?_append_left (by omega), List.getElem?_take_of_lt (Nat.lt_succ_self k), List.getElem?_eq_getElem lt]
    have above : (lines.take (k + 1) ++ sweepFrom lines removed (k + 1)).take k = lines.take k := by
      rw [List.take_append_of_le_length (by omega), List.take_take, Nat.min_eq_left (Nat.le_succ k)]
    have below : (lines.take (k + 1) ++ sweepFrom lines removed (k + 1)).drop (k + 1) = sweepFrom lines removed (k + 1) := by
      rw [List.drop_left' taken]
    simp only [List.getElem?_eq_getElem lt] at gone ⊢
    simp only [here, above, below]
    rcases repairLine_cases i lines[k] with ⟨message, eq⟩ | ⟨o, -, other, none, eq⟩
    · simp only [eq, Outcome.fixed, iff_true] at gone ⊢
      rw [Option.getD_some, withoutLine, sweepFrom_of_removed lt gone]
      exact ⟨trivial, rfl⟩
    · simp only [eq, none, Option.getD_none] at gone ⊢
      exact ⟨trivial, kept (by simpa [other] using gone)⟩
  · have all : lines.take (k + 1) ++ sweepFrom lines removed (k + 1) = lines := by
      rw [sweepFrom_of_length_le (by omega), List.take_of_length_le (by omega), List.append_nil]
    have missing : lines[k]? = none := List.getElem?_eq_none ge
    rw [missing] at gone
    rw [all] at kept ⊢
    rw [missing]
    exact ⟨rfl, kept (by simpa [Outcome.failed] using gone)⟩

end Repair

/-- Repairs one after the other, each on the text that the one before has left. -/
def repairAll : List Issue → String → List Outcome × String
  | [], text => ([], text)
  | i :: is, text =>
    let o := repairImport i text
    let (os, last) := repairAll is (o.newText.getD text)
    (o :: os, last)

section Batch

variable {lines : List String} {removed : Nat → Bool}

theorem exists_line_le (is : List Issue) (n : Nat) : ∃ m : Nat, n ≤ m ∧ ∀ i ∈ is, i.line ≤ m := by
  induction is with
  | nil => exact ⟨n, le_refl n, by simp⟩
  | cons i is ih =>
    obtain ⟨m, le, all⟩ := ih
    refine ⟨m + i.line.toNat, by omega, fun j mem => ?_⟩
    rcases List.mem_cons.1 mem with rfl | mem
    · omega
    · have := all j mem
      omega

/-- Is the line at a place one of a repaired issue? -/
def isRepaired (issues : List Issue) (text : String) (n : Nat) : Bool :=
  issues.any fun i => i.line == n + 1 && (repairImport i text).status == .fixed

theorem isRepaired_iff {issues : List Issue} {text : String} {n : Nat} :
    isRepaired issues text n = true ↔ ∃ i ∈ issues, i.line = n + 1 ∧ (repairImport i text).status = .fixed := by
  simp only [isRepaired, List.any_eq_true, Bool.and_eq_true, beq_iff_eq]

/-- **The run lemma.** Below line `m` nothing has been repaired yet, and above it everything that is to be. -/
theorem repairAll_descending (nonempty : lines ≠ []) (free : ∀ l ∈ lines, '\n' ∉ l.toList) (issues : List Issue) (m : Nat)
    (falling : issues.Pairwise fun i j => j.line < i.line) (bounds : ∀ i ∈ issues, 0 < i.line ∧ i.line ≤ m)
    (todo : ∀ n < m, removed n = isRepaired issues (Text.join "\n" lines) n) {text : String}
    (h : text = Text.join "\n" (lines.take m ++ sweepFrom lines removed m)) :
    (repairAll issues text).1.map (fun o => (o.issue, o.status)) =
        issues.map (fun i => (i, (repairImport i (Text.join "\n" lines)).status)) ∧
      (repairAll issues text).2 = Text.join "\n" (sweepFrom lines removed 0) := by
  induction issues generalizing m text with
  | nil =>
    have kept : ∀ k, 0 ≤ k → k < m → removed k = false := fun k _ km => todo k km
    refine ⟨rfl, ?_⟩
    rw [repairAll, h, ← take_append_sweepFrom_of_le (Nat.zero_le m) kept, List.take_zero, List.nil_append]
  | cons i issues ih =>
    obtain ⟨above, falling⟩ := List.pairwise_cons.1 falling
    obtain ⟨positive, le⟩ := bounds i List.mem_cons_self
    obtain ⟨k, place⟩ : ∃ k : Nat, i.line = k + 1 := ⟨(i.line - 1).toNat, by omega⟩
    -- the lines between this issue's and the last one's stay
    have between : ∀ n, k + 1 ≤ n → n < m → removed n = false := by
      intro n kn nm
      rw [todo n nm, ← Bool.not_eq_true, isRepaired_iff]
      rintro ⟨j, mem, line, -⟩
      rcases List.mem_cons.1 mem with rfl | mem
      · omega
      · have := above j mem
        omega
    have gone : removed k = true ↔ (repairImport i (Text.join "\n" lines)).status = .fixed := by
      rw [todo k (by omega), isRepaired_iff]
      constructor
      · rintro ⟨j, mem, line, fixed⟩
        rcases List.mem_cons.1 mem with rfl | mem
        · exact fixed
        · have := above j mem
          omega
      · exact fun fixed => ⟨i, List.mem_cons_self, place, fixed⟩
    have rest : ∀ n < k, removed n = isRepaired issues (Text.join "\n" lines) n := by
      intro n nk
      have other : (i.line == (n : Int) + 1) = false := by simp; omega
      rw [todo n (by omega), isRepaired, List.any_cons, other, Bool.false_and, Bool.false_or, isRepaired]
    rw [← take_append_sweepFrom_of_le (show k + 1 ≤ m by omega) between] at h
    obtain ⟨status, left⟩ := repairImport_sweepFrom place nonempty free gone h
    have tail := ih k falling (fun j mem => ⟨(bounds j (List.mem_cons_of_mem i mem)).1, by have := above j mem; omega⟩)
      rest left
    refine ⟨?_, tail.2⟩
    rw [repairAll, List.map_cons, List.map_cons, issue_repairImport, status, tail.1]

/-- Issues on falling lines, from the whole text on. -/
theorem repairAll_falling {issues : List Issue} (text : String) (positive : ∀ i ∈ issues, 0 < i.line)
    (falling : issues.Pairwise fun i j => j.line < i.line) :
    (repairAll issues text).1.map (fun o => (o.issue, o.status)) =
        issues.map (fun i => (i, (repairImport i text).status)) ∧
      (repairAll issues text).2 = Text.join "\n" (survivors (Text.splitAt '\n' text) (isRepaired issues text)) := by
  obtain ⟨m, length, below⟩ := exists_line_le issues (Text.splitAt '\n' text).length
  have whole : Text.join "\n" (Text.splitAt '\n' text) = text := Text.join_splitAt (by decide) text
  have start : text = Text.join "\n" ((Text.splitAt '\n' text).take m ++
      sweepFrom (Text.splitAt '\n' text) (isRepaired issues text) m) := by
    rw [sweepFrom_of_length_le length, List.take_of_length_le length, List.append_nil, whole]
  have run := repairAll_descending (Text.splitAt_ne_nil '\n' text) (fun l => Text.not_mem_of_mem_splitAt) issues m falling
    (fun i mem => ⟨positive i mem, below i mem⟩) (fun n _ => by rw [whole]) start
  rw [whole, ← sweepFrom_zero] at *
  exact run

end Batch

namespace Session

section Order

/-- Falling lines, then rule and symbol. -/
def orderKey (i : Issue) : Int ×ₗ String ×ₗ String := toLex (-i.line, toLex (i.rule, i.symbol))

theorem before_iff_orderKey_le {i j : Issue} : before i j = true ↔ orderKey i ≤ orderKey j := by
  simp only [before, orderKey, Prod.Lex.toLex_le_toLex]
  by_cases line : i.line = j.line
  · by_cases rule : i.rule = j.rule
    · simp [line, rule]
    · simp only [line, rule, if_true, if_false, decide_eq_true_eq, lt_irrefl, false_or, true_and, false_and, or_false]
  · have other : -i.line ≠ -j.line := by omega
    simp only [line, other, if_false, decide_eq_true_eq, false_and, or_false, Int.neg_lt_neg_iff]

theorem line_le_of_before {i j : Issue} (h : before i j = true) : j.line ≤ i.line := by
  simp only [before] at h
  split at h
  · next eq => exact eq.ge
  · exact le_of_lt (of_decide_eq_true h)

theorem pairwise_sorted (is : List Issue) : (is.mergeSort before).Pairwise fun i j => before i j = true := by
  refine List.pairwise_mergeSort (fun i j k ij jk => ?_) (fun i j => ?_) is
  · exact before_iff_orderKey_le.2 (le_trans (before_iff_orderKey_le.1 ij) (before_iff_orderKey_le.1 jk))
  · rw [Bool.or_eq_true, before_iff_orderKey_le, before_iff_orderKey_le]
    exact le_total _ _

/-- Issues on different lines are taken from the last line to the first. -/
theorem falling_sorted {is : List Issue} (distinct : (is.map (·.line)).Nodup) :
    (is.mergeSort before).Pairwise fun i j => j.line < i.line := by
  have nodup : ((is.mergeSort before).map (·.line)).Nodup := ((List.mergeSort_perm is before).map _).nodup_iff.2 distinct
  exact ((pairwise_sorted is).and (List.pairwise_map.1 nodup)).imp fun h =>
    lt_of_le_of_ne (line_le_of_before h.1) h.2.symm

/-- A batch in its order, on a text alone. -/
theorem repairAll_sorted {issues : List Issue} (text : String) (positive : ∀ i ∈ issues, 0 < i.line)
    (distinct : (issues.map (·.line)).Nodup) :
    (repairAll (issues.mergeSort before) text).1.map (fun o => (o.issue, o.status)) =
        (issues.mergeSort before).map (fun i => (i, (repairImport i text).status)) ∧
      (repairAll (issues.mergeSort before) text).2 =
        Text.join "\n" (survivors (Text.splitAt '\n' text) (isRepaired issues text)) := by
  have perm := List.mergeSort_perm issues before
  have same : isRepaired (issues.mergeSort before) text = isRepaired issues text := funext fun n => perm.any_eq
  rw [← same]
  exact repairAll_falling text (fun i mem => positive i (perm.mem_iff.1 mem)) (falling_sorted distinct)

/-- The issues of one file are taken in their order. -/
theorem inOrder_of_file {is : List Issue} {file : String} (named : file ≠ "") (h : ∀ i ∈ is, i.file = file) :
    inOrder is = is.mergeSort before := by
  cases is with
  | nil => simp [inOrder, Text.sortUnique, Text.sortStrings]
  | cons i is =>
    have files : (i :: is).map (·.file) = List.replicate (is.length + 1) file := by
      rw [List.eq_replicate_iff]
      exact ⟨by simp, by simpa using h⟩
    have none : (i :: is).filter (·.file.isEmpty) = [] := by
      rw [List.filter_eq_nil_iff]
      intro j mem
      simp [h j mem, named]
    have all : (i :: is).filter (·.file == file) = i :: is := by
      rw [List.filter_eq_self]
      intro j mem
      simp [h j mem]
    have single : Text.sortUnique (List.replicate (is.length + 1) file) = [file] := by
      rw [Text.sortUnique, List.replicate_succ, List.eraseDups_cons, List.filter_replicate]
      simp [Text.sortStrings]
    rw [inOrder, files, none, List.filter_replicate, if_pos (by simp [named]), single]
    simp [all]

end Order

section Session

variable {s : Session} {d : Disk} {here : Path} {file text : String}

/-- The text of a file as the session has it, or would read it. -/
def textOf? (s : Session) (d : Disk) (here : Path) (file : String) : Option String :=
  match s.load d here file with
  | .ok (_, some source) => some source.text
  | _ => none

/-- A file comes from the session, or from the disk on first use. -/
theorem load_cases {s' : Session} {source : Option SourceFile} (loaded : s.load d here file = .ok (s', source)) :
    s' = s ∧ source = Assoc.get? s.files file ∨
      ∃ x, Assoc.get? s.files file = none ∧ fetch s.codecs d here file = .ok (some x) ∧ source = some x ∧
        s' = { s with files := Assoc.set s.files file x } := by
  rw [load] at loaded
  split at loaded
  · next held =>
    cases loaded
    exact Or.inl ⟨rfl, held.symm⟩
  · next new =>
    split at loaded
    · cases loaded
    · cases loaded
      exact Or.inl ⟨rfl, new.symm⟩
    · next x fetched =>
      cases loaded
      exact Or.inr ⟨x, new, fetched, rfl, rfl⟩

theorem load_of_textOf? (h : s.textOf? d here file = some text) :
    ∃ s₁ source, s.load d here file = .ok (s₁, some source) ∧ source.text = text ∧ s₁.known = s.known ∧
      Assoc.get? s₁.files file = some source := by
  rw [textOf?] at h
  split at h
  · next s₁ source loaded =>
    refine ⟨s₁, source, loaded, Option.some.inj h, ?_⟩
    rcases load_cases loaded with ⟨rfl, held⟩ | ⟨x, -, -, eq, rfl⟩
    · exact ⟨rfl, held.symm⟩
    · rw [eq]
      exact ⟨rfl, Assoc.get?_set_self ..⟩
  · cases h

theorem textOf?_of_get? {source : SourceFile} (h : Assoc.get? s.files file = some source) :
    s.textOf? d here file = some source.text := by
  simp [textOf?, load, h]

/-- One issue: its outcome is the repair of the text that the session has, and what the repair leaves is the text that it
has afterwards. -/
theorem fixIssue_import {i : Issue} (builtIn : s.known = [(importFixer.name, importFixer)])
    (taken : isImportIssue i = true) (readable : s.textOf? d here i.file = some text) :
    ∃ s', s.fixIssue d here i = (s', .ok (repairImport i text)) ∧ s'.known = [(importFixer.name, importFixer)] ∧
      s'.textOf? d here i.file = some ((repairImport i text).newText.getD text) := by
  obtain ⟨s₁, source, loaded, rfl, known, got⟩ := load_of_textOf? readable
  have named : i.file.isEmpty = false := by simp_all [isImportIssue]
  have fixer : s.fixerFor? i = some importFixer := by simp [fixerFor?, fixers, builtIn, importFixer, taken]
  refine ⟨s₁.record (repairImport i source.text) (some source), ?_, known.trans builtIn, ?_⟩
  · simp only [fixIssue, named, fixer, loaded]
    rfl
  · have issue := issue_repairImport i source.text
    have change : (repairImport i source.text).isChange = (repairImport i source.text).newText.isSome := by
      rw [Outcome.isChange, isSome_newText_repairImport, Bool.and_self]
    cases new : (repairImport i source.text).newText with
    | none =>
      refine textOf?_of_get? ?_
      simp only [record, change, new, Option.isSome_none]
      exact got
    | some t =>
      have changed : Assoc.get? (s₁.record (repairImport i source.text) (some source)).files i.file =
          some { source with text := t, modified := true } := by
        simp only [record, change, new, issue, Option.isSome_some, Assoc.get?_set_self]
      exact textOf?_of_get? changed

theorem fixAll_eq_repairAll {is : List Issue} (builtIn : s.known = [(importFixer.name, importFixer)])
    (taken : ∀ i ∈ is, isImportIssue i = true ∧ i.file = file) (readable : s.textOf? d here file = some text) :
    ∃ s', s.fixAll d here is = (s', .ok (repairAll is text).1) ∧
      s'.textOf? d here file = some (repairAll is text).2 := by
  induction is generalizing s text with
  | nil => exact ⟨s, rfl, readable⟩
  | cons i is ih =>
    obtain ⟨import_, rfl⟩ := taken i List.mem_cons_self
    obtain ⟨s₁, step, builtIn, readable⟩ := fixIssue_import builtIn import_ readable
    obtain ⟨s₂, run, final⟩ := ih builtIn (fun j mem => taken j (List.mem_cons_of_mem i mem)) readable
    refine ⟨s₂, ?_, final⟩
    rw [fixAll, step]
    simp only [run, repairAll, Except.map]

/-- **Repairs from the end hit the lines that were reported.** In a batch of imports of one file on different lines every
issue ends as it would alone on the text before the batch. The lines that are left are those before the batch, without
the lines of the repaired issues and without the blank lines that collapse onto them; a text that loses all its lines is
empty. -/
theorem fixIssues_bottom_up {issues : List Issue} (builtIn : s.known = [(importFixer.name, importFixer)])
    (readable : s.textOf? d here file = some text) (named : file ≠ "")
    (reported : ∀ i ∈ issues, i.rule = Rule.imports.label ∧ i.file = file ∧ 0 < i.line)
    (distinct : (issues.map (·.line)).Nodup) :
    ∃ s' outcomes final, s.fixIssues d here issues = (s', .ok outcomes) ∧
      (outcomes.map (·.issue)).Perm issues ∧
      (∀ o ∈ outcomes, o.status = (repairImport o.issue text).status) ∧
      s'.textOf? d here file = some final ∧
      if survivors (Text.splitAt '\n' text) (isRepaired issues text) = [] then final = ""
      else Text.splitAt '\n' final = survivors (Text.splitAt '\n' text) (isRepaired issues text) := by
  have perm := List.mergeSort_perm issues before
  obtain ⟨outcomes, last⟩ := repairAll_sorted text (fun i mem => (reported i mem).2.2) distinct
  have taken : ∀ i ∈ issues.mergeSort before, isImportIssue i = true ∧ i.file = file := fun i mem => by
    obtain ⟨rule, rfl, positive⟩ := reported i (perm.mem_iff.1 mem)
    simp [isImportIssue, rule, named, positive]
  obtain ⟨s', run, final⟩ := fixAll_eq_repairAll builtIn taken readable
  rw [last] at final
  refine ⟨s', (repairAll (issues.mergeSort before) text).1, _, ?_, ?_, fun o mem => ?_, final, ?_⟩
  · rw [fixIssues, inOrder_of_file named fun i mem => (reported i mem).2.1, run]
  · have issue := congrArg (List.map Prod.fst) outcomes
    simp only [List.map_map, Function.comp_def, List.map_id'] at issue
    rw [issue]
    exact perm
  · have pair : (o.issue, o.status) ∈ (issues.mergeSort before).map fun i => (i, (repairImport i text).status) :=
      outcomes ▸ List.mem_map_of_mem mem
    obtain ⟨i, -, eq⟩ := List.mem_map.1 pair
    obtain ⟨rfl, status⟩ := Prod.mk.inj eq
    exact status.symm
  · split
    · next none => rw [none]; rfl
    · next some =>
      exact Text.splitAt_join (by decide) some fun l mem => Text.not_mem_of_mem_splitAt (survivors_subset _ _ mem)

/-- Two imports between blank lines. -/
def gappedText : String := "<?php\n\nuse A;\n\nuse B;\n\nf();"

/-- A session that has the text. -/
def gapped : Session where
  known := [(importFixer.name, importFixer)]
  files := [("a.php", ⟨gappedText, .known .utf8, false⟩)]

/-- The two imports, and a third one that is not there. -/
def gappedIssues : List Issue :=
  [⟨Rule.imports.label, "A", "a.php", 3, .warning, "", none⟩, ⟨Rule.imports.label, "B", "a.php", 5, .warning, "", none⟩,
    ⟨Rule.imports.label, "C", "a.php", 7, .warning, "", none⟩]

theorem fixIssues_gapped :
    ∃ s' outcomes final, gapped.fixIssues {} {} gappedIssues = (s', .ok outcomes) ∧
      (outcomes.map (·.issue)).Perm gappedIssues ∧
      (∀ o ∈ outcomes, o.status = if o.issue.line = 7 then .failed else .fixed) ∧
      s'.textOf? {} {} "a.php" = some final ∧ Text.splitAt '\n' final = ["<?php", "", "f();"] := by
  have readable : gapped.textOf? {} {} "a.php" = some gappedText := rfl
  have reported : ∀ i ∈ gappedIssues, i.rule = Rule.imports.label ∧ i.file = "a.php" ∧ 0 < i.line := by decide
  obtain ⟨s', outcomes, final, run, perm, statuses, text, lines⟩ :=
    fixIssues_bottom_up rfl readable (by decide) reported (by decide)
  have alone : ∀ i ∈ gappedIssues, (repairImport i gappedText).status = if i.line = 7 then .failed else .fixed := by
    decide +kernel
  have left : survivors (Text.splitAt '\n' gappedText) (isRepaired gappedIssues gappedText) = ["<?php", "", "f();"] := by
    decide +kernel
  rw [left, if_neg (List.cons_ne_nil _ _)] at lines
  refine ⟨s', outcomes, final, run, perm, fun o mem => ?_, text, lines⟩
  rw [statuses o mem, alone o.issue (perm.mem_iff.1 (List.mem_map_of_mem mem))]

end Session

end Session

end DeadCode.Fix
