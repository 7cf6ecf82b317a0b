import DeadCode.Proofs.Canonical
import DeadCode.Proofs.TableRuns
import DeadCode.Proofs.Takings

/-!
# Batches in another order

A batch is put in order before it is taken, and the order leaves open only how issues of one key follow each other. What
becomes of an issue depends on its key alone, so two orders of a batch leave the same files and, issue by issue, the same
status and message (`Sources.takeAll_congr`, `fixIssues_perm`). No issue is lost on the way (`inOrder_perm`), unless one of
them cannot be taken: then the whole batch has no outcomes, in any order.
-/

namespace DeadCode.Fix
set_option autoImplicit false

/-- What an outcome shows: the key of its issue, the status and the message. -/
def Outcome.shown (o : Outcome) : Issue.Key × Status × String := (o.issue.key, o.status, o.message)

section Repair

variable {i j : Issue}

/-- A repair looks at the line and the symbol of its issue. -/
theorem shown_repairImport (same : i.key = j.key) (text : String) :
    (repairImport i text).shown = (repairImport j text).shown ∧
      (repairImport i text).newText = (repairImport j text).newText := by
  obtain ⟨-, line, -, symbol⟩ := Issue.key_eq_iff.1 same
  have each : ∀ before target after,
      (repairLine i before target after).shown = (repairLine j before target after).shown ∧
        (repairLine i before target after).newText = (repairLine j before target after).newText := by
    intro before target after
    simp only [repairLine, line, symbol]
    split
    · exact ⟨by simp only [Outcome.shown, Outcome.failed, same], rfl⟩
    · split
      · exact ⟨by simp only [Outcome.shown, Outcome.skipped, same], rfl⟩
      · split
        · exact ⟨by simp only [Outcome.shown, Outcome.fixed, same], rfl⟩
        · exact ⟨by simp only [Outcome.shown, Outcome.skipped, same], rfl⟩
  simp only [repairImport, line]
  split
  · exact each _ _ _
  · exact ⟨by simp only [Outcome.shown, Outcome.failed, same], rfl⟩

end Repair

namespace Sources

variable {i j : Issue} {is js : List Issue}

theorem take_congr (files : Sources) (g : Registry) (d : Disk) (here : Path) (same : i.key = j.key) :
    (files.take g d here i).1 = (files.take g d here j).1 ∧
      (files.take g d here i).2.map Outcome.shown = (files.take g d here j).2.map Outcome.shown := by
  obtain ⟨file, line, rule, symbol⟩ := Issue.key_eq_iff.1 same
  have taken : isImportIssue i = isImportIssue j := by rw [isImportIssue, isImportIssue, rule, file, line]
  simp only [take, file, taken]
  split
  · exact ⟨rfl, by simp only [Except.map, Outcome.shown, Outcome.failed, same]⟩
  · split
    · split
      · exact ⟨rfl, rfl⟩
      · exact ⟨rfl, by simp only [Except.map, Outcome.shown, Outcome.failed, same]⟩
      · next x _ =>
        obtain ⟨shown, new⟩ := shown_repairImport same x.text
        simp only [SourceFile.after, new, Except.map, shown, and_self]
    · exact ⟨rfl, by simp only [Except.map, Outcome.shown, Outcome.skipped, same]⟩

/-- The run lemma: issues of the same keys leave the same files and show the same outcomes. -/
theorem takeAll_congr (files : Sources) (g : Registry) (d : Disk) (here : Path) (same : is.map Issue.key = js.map Issue.key) :
    (files.takeAll g d here is).1 = (files.takeAll g d here js).1 ∧
      (files.takeAll g d here is).2.1.map Outcome.shown = (files.takeAll g d here js).2.1.map Outcome.shown ∧
      (files.takeAll g d here is).2.2 = (files.takeAll g d here js).2.2 := by
  induction is generalizing files js with
  | nil =>
    obtain rfl : js = [] := List.map_eq_nil_iff.1 same.symm
    exact ⟨rfl, rfl, rfl⟩
  | cons i is ih =>
    obtain ⟨j, js, rfl, key, keys⟩ := List.map_eq_cons_iff.1 same.symm
    obtain ⟨after, ended⟩ := take_congr files g d here key.symm
    cases first : (files.take g d here i).2 with
    | error e =>
      have second : (files.take g d here j).2 = .error e := by
        rw [first] at ended
        cases other : (files.take g d here j).2 with
        | error e' => rw [other] at ended; exact congrArg _ (Except.error.inj ended).symm
        | ok o => rw [other] at ended; cases ended
      rw [takeAll_cons_error first, takeAll_cons_error second, after]
      exact ⟨rfl, rfl, rfl⟩
    | ok o =>
      obtain ⟨o', second, shown⟩ : ∃ o', (files.take g d here j).2 = .ok o' ∧ o.shown = o'.shown := by
        rw [first] at ended
        cases other : (files.take g d here j).2 with
        | error e => rw [other] at ended; cases ended
        | ok o' => rw [other] at ended; exact ⟨o', rfl, Except.ok.inj ended⟩
      obtain ⟨files', outcomes, error⟩ := ih (files.take g d here i).1 keys.symm
      rw [takeAll_cons_ok first, takeAll_cons_ok second, ← after]
      exact ⟨files', by rw [List.map_cons, List.map_cons, shown, outcomes], error⟩

/-- Issues without a file fail, and nothing is read for them. -/
theorem takeAll_of_unnamed (files : Sources) (g : Registry) (d : Disk) (here : Path) (unnamed : ∀ i ∈ is, i.file = "") :
    files.takeAll g d here is = (files, is.map (.failed · "Issue has no file path"), none) := by
  induction is with
  | nil => rfl
  | cons i is ih =>
    have first : files.take g d here i = (files, .ok (.failed i "Issue has no file path")) := by
      rw [take, unnamed i List.mem_cons_self]
      rfl
    rw [takeAll_cons_ok (congrArg Prod.snd first), first, ih fun j mem => unnamed j (List.mem_cons_of_mem i mem)]
    rfl

end Sources

namespace Session

section Stops

/-- A file that cannot be read as text and is not passed over: a zero character stands in its name or in the name of the
encoding that it declares, or its encoding breaks off. -/
inductive Unreadable (g : Registry) (d : Disk) (here : Path) (file : String) : Prop
  | path (zero : '\x00' ∈ file.toList)
  | name {bytes : List UInt8} (read : d.read (here.resolve (Path.ofString file)) = .ok bytes)
      (zero : Encoding.detect g bytes = .error .nullInName)
  | encoding {bytes : List UInt8} {found : Detected} {kind : String}
      (read : d.read (here.resolve (Path.ofString file)) = .ok bytes)
      (detected : Encoding.detect g bytes = .ok (some found))
      (broken : found.codec.decodeChars g bytes = .error (.breakdown kind))

/-- The issue cannot be taken, because of its file. -/
def Stops (g : Registry) (d : Disk) (here : Path) (i : Issue) : Prop := isImportIssue i = true ∧ Unreadable g d here i.file

variable {g : Registry} {d : Disk} {here : Path} {i : Issue}

theorem detect_error {bytes : List UInt8} {e : CodecError} (failed : Encoding.detect g bytes = .error e) :
    e = .nullInName := by
  rw [Encoding.detect] at failed
  split at failed
  · cases failed
  · split at failed
    · cases failed
    · exact (Except.error.inj failed).symm
    · cases failed

theorem fetch_error_iff {file : String} : (∃ e, fetch g d here file = .error e) ↔ Unreadable g d here file := by
  constructor
  · rintro ⟨e, failed⟩
    rw [fetch] at failed
    split at failed
    · next zero => exact .path (by simpa using zero)
    · split at failed
      · cases failed
      · next bytes read =>
        cases detected : Encoding.detect g bytes with
        | error e' => exact .name read (detect_error detected ▸ detected)
        | ok found =>
          simp only [Encoding.detectOrBytes, detected, Except.map, Charset.decode] at failed
          cases found with
          | none =>
            cases decoded : (Charset.known .latin1).decodeChars g bytes with
            | ok cs => simp [decoded] at failed
            | error e' =>
              cases e' with
              | fault f => simp [decoded] at failed
              | breakdown kind => exact absurd decoded Charset.decodeChars_known_ne
          | some found =>
            cases decoded : found.codec.decodeChars g bytes with
            | ok cs => simp [decoded] at failed
            | error e' =>
              cases e' with
              | fault f => simp [decoded] at failed
              | breakdown kind => exact .encoding read detected decoded
  · intro unreadable
    cases unreadable with
    | path zero => exact ⟨.nullInPath, by simp [fetch, zero]⟩
    | name read zero =>
      by_cases path : '\x00' ∈ file.toList
      · exact ⟨.nullInPath, by simp [fetch, path]⟩
      · exact ⟨.codec .nullInName, by simp [fetch, path, read, Encoding.detectOrBytes, zero, Except.map]⟩
    | @encoding bytes found kind read detected broken =>
      by_cases path : '\x00' ∈ file.toList
      · exact ⟨.nullInPath, by simp [fetch, path]⟩
      · refine ⟨.encoding kind, ?_⟩
        simp [fetch, path, read, Encoding.detectOrBytes, detected, Except.map, Charset.decode, broken]

/-- What the files hold could be read. -/
def Fetched (g : Registry) (d : Disk) (here : Path) (files : Sources) : Prop :=
  ∀ f x, Assoc.get? files f = some x → ∃ y, fetch g d here f = .ok (some y)

variable {files : Sources}

theorem Fetched.source_error_iff (fetched : Fetched g d here files) {file : String} {e : FixError} :
    files.source g d here file = .error e ↔ fetch g d here file = .error e := by
  rw [Sources.source]
  cases held : Assoc.get? files file with
  | none => rfl
  | some x =>
    obtain ⟨y, read⟩ := fetched file x held
    simp [read]

theorem Fetched.set (fetched : Fetched g d here files) {file : String} {x : SourceFile}
    (read : files.source g d here file = .ok (some x)) (y : SourceFile) : Fetched g d here (Assoc.set files file y) := by
  intro f z held
  by_cases same : f = file
  · rw [same]
    rw [Sources.source] at read
    cases old : Assoc.get? files file with
    | none => rw [old] at read; exact ⟨x, read⟩
    | some w => exact fetched file w old
  · rw [Assoc.get?_set_of_ne _ _ same] at held
    exact fetched f z held

theorem Fetched.take (fetched : Fetched g d here files) (i : Issue) : Fetched g d here (files.take g d here i).1 := by
  have ends := Sources.take_ends files g d here i
  generalize (files.take g d here i).1 = files', (files.take g d here i).2 = result at ends
  cases ends with
  | stopped => exact fetched
  | early => exact fetched
  | kept x _ read _ => exact fetched.set read x
  | repaired x text _ read _ => exact fetched.set read _

theorem Fetched.take_error_iff (fetched : Fetched g d here files) :
    (∃ e, (files.take g d here i).2 = .error e) ↔ Stops g d here i := by
  rw [Stops, ← fetch_error_iff]
  have ends := Sources.take_ends files g d here i
  constructor
  · rintro ⟨e, stopped⟩
    rw [stopped] at ends
    generalize (files.take g d here i).1 = files' at ends
    cases ends with
    | stopped _ taken unread => exact ⟨taken, e, fetched.source_error_iff.1 unread⟩
  · rintro ⟨taken, e, unread⟩
    have named : i.file.isEmpty = false := by
      simp only [isImportIssue, Bool.and_eq_true, Bool.not_eq_true'] at taken
      exact taken.1.2
    have stopped := fetched.source_error_iff.2 unread
    exact ⟨e, by simp [Sources.take, named, taken, stopped]⟩

/-- A batch is taken to its end exactly if each of its issues can be taken. -/
theorem Fetched.takeAll_eq_none_iff (fetched : Fetched g d here files) {is : List Issue} :
    (files.takeAll g d here is).2.2 = none ↔ ∀ i ∈ is, ¬Stops g d here i := by
  induction is generalizing files with
  | nil => simp [Sources.takeAll]
  | cons i is ih =>
    rw [List.forall_mem_cons, ← fetched.take_error_iff, ← ih (fetched.take i)]
    cases ended : (files.take g d here i).2 with
    | error e => simp [Sources.takeAll_cons_error ended]
    | ok o => simp [Sources.takeAll_cons_ok ended]

end Stops

section Order

variable {is js : List Issue}

theorem sortStrings_perm {xs ys : List String} (perm : xs.Perm ys) : Text.sortStrings xs = Text.sortStrings ys := by
  have same : (Text.sortStrings xs).Perm (Text.sortStrings ys) :=
    (List.mergeSort_perm xs _).trans (perm.trans (List.mergeSort_perm ys _).symm)
  exact same.eq_of_pairwise (fun _ _ _ _ => le_antisymm) (Text.pairwise_sortStrings xs) (Text.pairwise_sortStrings ys)

theorem sortUnique_perm {xs ys : List String} (perm : xs.Perm ys) : Text.sortUnique xs = Text.sortUnique ys := by
  have same : xs.eraseDups.Perm ys.eraseDups := by
    refine (List.perm_ext_iff_of_nodup (nodup_eraseDups xs) (nodup_eraseDups ys)).2 fun a => ?_
    rw [List.mem_eraseDups, List.mem_eraseDups, perm.mem_iff]
  exact sortStrings_perm same

/-- The key of an issue of a file, from its place in the order of the file. -/
def keyAt (file : String) (place : Int ×ₗ String ×ₗ String) : Issue.Key :=
  toLex (file, toLex (-(ofLex place).1, (ofLex place).2))

theorem key_eq_keyAt (i : Issue) : i.key = keyAt i.file (orderKey i) := by
  simp [Issue.key, keyAt, orderKey]

/-- Issues of a file that are sorted differ from another order of them at most within one key. -/
theorem keys_sorted_perm (file : String) (perm : is.Perm js) (own : ∀ i ∈ is, i.file = file) :
    (is.mergeSort before).map Issue.key = (js.mergeSort before).map Issue.key := by
  have sorted : ∀ ks : List Issue, ((ks.mergeSort before).map orderKey).Pairwise (· ≤ ·) := fun ks =>
    List.pairwise_map.2 ((pairwise_sorted ks).imp before_iff_orderKey_le.1)
  have same : (is.mergeSort before).Perm (js.mergeSort before) :=
    (List.mergeSort_perm is _).trans (perm.trans (List.mergeSort_perm js _).symm)
  have places : (is.mergeSort before).map orderKey = (js.mergeSort before).map orderKey :=
    (same.map orderKey).eq_of_pairwise (fun _ _ _ _ => le_antisymm) (sorted is) (sorted js)
  have keys : ∀ ks : List Issue, ks.Perm is →
      (ks.mergeSort before).map Issue.key = ((ks.mergeSort before).map orderKey).map (keyAt file) := by
    intro ks among
    rw [List.map_map]
    refine List.map_congr_left fun i mem => ?_
    have given : i ∈ is := among.mem_iff.1 ((List.mergeSort_perm ks _).mem_iff.1 mem)
    rw [Function.comp_apply, key_eq_keyAt, own i given]
  rw [keys is (.refl is), keys js perm.symm, places]

/-- The part of a batch that has a file, in its order. -/
def inFiles (is : List Issue) : List Issue :=
  (Text.sortUnique ((is.map (·.file)).filter fun f => !f.isEmpty)).flatMap fun f =>
    (is.filter (·.file == f)).mergeSort before

theorem inOrder_eq (is : List Issue) : inOrder is = is.filter (·.file.isEmpty) ++ inFiles is := rfl

theorem keys_inFiles_perm (perm : is.Perm js) : (inFiles is).map Issue.key = (inFiles js).map Issue.key := by
  have files := sortUnique_perm ((perm.map (·.file)).filter fun f => !f.isEmpty)
  rw [inFiles, inFiles, files, List.map_flatMap, List.map_flatMap]
  congr 1
  funext file
  refine keys_sorted_perm file (perm.filter _) fun i mem => ?_
  exact eq_of_beq (List.mem_filter.1 mem).2

theorem inFiles_perm (is : List Issue) : (inFiles is).Perm (is.filter fun i => !i.file.isEmpty) := by
  have grouped := flatMap_filter_perm Issue.file (Text.nodup_sortUnique ((is.map (·.file)).filter fun f => !f.isEmpty)) is
  have named : (is.filter fun i => (Text.sortUnique ((is.map (·.file)).filter fun f => !f.isEmpty)).contains i.file) =
      is.filter fun i => !i.file.isEmpty := by
    refine List.filter_congr fun i mem => ?_
    have listed : i.file ∈ is.map (·.file) := List.mem_map_of_mem mem
    rw [Bool.eq_iff_iff, List.contains_iff_mem, Text.mem_sortUnique, List.mem_filter]
    exact ⟨fun h => h.2, fun h => ⟨listed, h⟩⟩
  rw [named] at grouped
  exact (List.Perm.flatMap_left _ fun f _ => List.mergeSort_perm _ _).trans grouped

/-- Putting a batch in order loses no issue. -/
theorem inOrder_perm (is : List Issue) : (inOrder is).Perm is :=
  ((List.Perm.refl _).append (inFiles_perm is)).trans (List.filter_append_perm (fun i : Issue => i.file.isEmpty) is)

end Order

section Batch

variable {g : Registry} {d : Disk} {here : Path} {is js : List Issue}

theorem fixIssues_fresh (g : Registry) (d : Disk) (here : Path) (dryRun : Bool) (is : List Issue) :
    (fresh dryRun g).fixIssues d here is =
      ({ fresh dryRun g with
          files := (Sources.takeAll [] g d here (inOrder is)).1
          outcomes := (Sources.takeAll [] g d here (inOrder is)).2.1 },
        match (Sources.takeAll [] g d here (inOrder is)).2.2 with
        | none => .ok (Sources.takeAll [] g d here (inOrder is)).2.1
        | some e => .error e) := fixAll_eq rfl d here (inOrder is)

/-- A batch whose issues can all be taken. -/
theorem fixIssues_of_takeAll (dryRun : Bool) {files : Sources} {os : List Outcome}
    (run : Sources.takeAll [] g d here (inOrder is) = (files, os, none)) :
    (fresh dryRun g).fixIssues d here is = ({ fresh dryRun g with files, outcomes := os }, .ok os) ∧
      (os.map (·.issue)).Perm is := by
  have issues := Sources.issues_takeAll (congrArg (·.2.2) run)
  rw [run] at issues
  exact ⟨by rw [fixIssues_fresh, run], issues ▸ inOrder_perm is⟩

/-- The issues without a file come first and leave no trace in the files. -/
theorem takeAll_inOrder (g : Registry) (d : Disk) (here : Path) (is : List Issue) :
    Sources.takeAll [] g d here (inOrder is) =
      ((Sources.takeAll [] g d here (inFiles is)).1,
        (is.filter (·.file.isEmpty)).map (.failed · "Issue has no file path") ++
          (Sources.takeAll [] g d here (inFiles is)).2.1,
        (Sources.takeAll [] g d here (inFiles is)).2.2) := by
  have unnamed : ∀ i ∈ is.filter (·.file.isEmpty), i.file = "" := fun i mem => by
    simpa using (List.mem_filter.1 mem).2
  have first := Sources.takeAll_of_unnamed [] g d here unnamed
  rw [inOrder_eq, Sources.takeAll_append (by rw [first]), first]

/-- Of the outcomes of a batch, those with a file are those of the issues with a file. -/
theorem named_outcomes (g : Registry) (d : Disk) (here : Path) (is : List Issue)
    (all : (Sources.takeAll [] g d here (inFiles is)).2.2 = none) :
    (Sources.takeAll [] g d here (inOrder is)).2.1.filter (fun o => !o.issue.file.isEmpty) =
      (Sources.takeAll [] g d here (inFiles is)).2.1 := by
  have issues := Sources.issues_takeAll all
  rw [takeAll_inOrder, List.filter_append, List.filter_eq_nil_iff.2 ?unnamed, List.nil_append, List.filter_eq_self.2 ?named]
  case unnamed =>
    intro o mem
    obtain ⟨i, given, rfl⟩ := List.mem_map.1 mem
    simpa [Outcome.failed] using (List.mem_filter.1 given).2
  case named =>
    intro o mem
    have listed : o.issue ∈ inFiles is := issues ▸ List.mem_map_of_mem mem
    exact (List.mem_filter.1 ((inFiles_perm is).mem_iff.1 listed)).2

/-- **The order of a batch.** Two orders of one batch leave the same texts. If an issue cannot be taken, both end with the
same error. Otherwise both give every issue its outcome, and those of the issues with a file show the same in the same
order. -/
theorem fixIssues_perm (g : Registry) (d : Disk) (here : Path) (dryRun dryRun' : Bool) (perm : is.Perm js) :
    let a := (fresh dryRun g).fixIssues d here is
    let b := (fresh dryRun' g).fixIssues d here js
    a.1.modifiedFiles = b.1.modifiedFiles ∧ (∀ file, a.1.modifiedText file = b.1.modifiedText file) ∧
      ((∃ i ∈ is, Stops g d here i) → ∃ e, a.2 = .error e ∧ b.2 = .error e) ∧
      ((∀ i ∈ is, ¬Stops g d here i) →
        ∃ os os', a.2 = .ok os ∧ b.2 = .ok os' ∧ (os.map (·.issue)).Perm is ∧ (os'.map (·.issue)).Perm js ∧
          (os.filter fun o => !o.issue.file.isEmpty).map Outcome.shown =
            (os'.filter fun o => !o.issue.file.isEmpty).map Outcome.shown) := by
  intro a b
  obtain ⟨files, outcomes, error⟩ := Sources.takeAll_congr [] g d here (keys_inFiles_perm perm)
  have files' : (Sources.takeAll [] g d here (inOrder is)).1 = (Sources.takeAll [] g d here (inOrder js)).1 := by
    rw [takeAll_inOrder, takeAll_inOrder, files]
  have error' : (Sources.takeAll [] g d here (inOrder is)).2.2 = (Sources.takeAll [] g d here (inOrder js)).2.2 := by
    rw [takeAll_inOrder, takeAll_inOrder, error]
  have left : a.1.files = b.1.files := by
    simp only [a, b, fixIssues_fresh, files']
  have fetched : Fetched g d here [] := nofun
  have whole : (Sources.takeAll [] g d here (inOrder is)).2.2 = none ↔ ∀ i ∈ is, ¬Stops g d here i := by
    rw [fetched.takeAll_eq_none_iff]
    simp only [(inOrder_perm is).mem_iff]
  refine ⟨by rw [modifiedFiles, modifiedFiles, left], fun file => by rw [modifiedText, modifiedText, left], ?_, ?_⟩
  · rintro ⟨i, given, stops⟩
    obtain ⟨e, stopped⟩ := Option.ne_none_iff_exists'.1 fun none => whole.1 none i given stops
    refine ⟨e, ?_, ?_⟩
    · simp only [a, fixIssues_fresh, stopped]
    · simp only [b, fixIssues_fresh, ← error', stopped]
  · intro taken
    have all := whole.2 taken
    have all' := error' ▸ all
    have inside : (Sources.takeAll [] g d here (inFiles is)).2.2 = none := by rwa [takeAll_inOrder] at all
    have inside' : (Sources.takeAll [] g d here (inFiles js)).2.2 = none := by rwa [takeAll_inOrder] at all'
    obtain ⟨run, issues⟩ := fixIssues_of_takeAll dryRun (Prod.ext rfl (Prod.ext rfl all))
    obtain ⟨run', issues'⟩ := fixIssues_of_takeAll dryRun' (Prod.ext rfl (Prod.ext rfl all'))
    refine ⟨_, _, congrArg Prod.snd run, congrArg Prod.snd run', issues, issues', ?_⟩
    rw [named_outcomes g d here is inside, named_outcomes g d here js inside', outcomes]

/-- Two files with an import each. -/
def twoFiles : Disk where
  entries := [(["a.php"], .file (Utf8.encode "<?php\nuse A;\n") default),
    (["b.php"], .file (Utf8.encode "<?php\n\nuse B;\n") default)]

/-- Imports of both files, one of them twice, an issue of another rule and one without a file. -/
def scattered : List Issue :=
  [⟨Rule.imports.label, "B", "b.php", 3, .warning, "", none⟩, ⟨Rule.imports.label, "A", "a.php", 2, .warning, "", none⟩,
    ⟨Rule.imports.label, "C", "", 1, .warning, "", none⟩, ⟨Rule.imports.label, "A", "a.php", 2, .error, "again", none⟩,
    ⟨"unused-classes", "D", "a.php", 7, .warning, "", none⟩]

theorem fixIssues_perm_scattered :
    let a := (fresh true {}).fixIssues twoFiles {} scattered
    let b := (fresh false {}).fixIssues twoFiles {} scattered.reverse
    a.1.modifiedFiles = b.1.modifiedFiles ∧ (∀ file, a.1.modifiedText file = b.1.modifiedText file) ∧
      ∃ os os', a.2 = .ok os ∧ b.2 = .ok os' ∧ (os.map (·.issue)).Perm scattered ∧
        (os'.map (·.issue)).Perm scattered.reverse ∧
        (os.filter fun o => !o.issue.file.isEmpty).map Outcome.shown =
          (os'.filter fun o => !o.issue.file.isEmpty).map Outcome.shown := by
  have read : ∀ i ∈ scattered, (fetch {} twoFiles {} i.file).isOk = true := by decide +kernel
  have taken : ∀ i ∈ scattered, ¬Stops {} twoFiles {} i := by
    rintro i given ⟨-, stops⟩
    obtain ⟨e, failed⟩ := fetch_error_iff.2 stops
    have ok := read i given
    rw [failed] at ok
    cases ok
  obtain ⟨files, texts, -, outcomes⟩ := fixIssues_perm {} twoFiles {} true false (List.reverse_perm scattered).symm
  exact ⟨files, texts, outcomes taken⟩

/-- A file that declares an encoding with a zero character in its name. -/
def zeroDeclared : Disk where
  entries := [(["c.php"], .file (Utf8.encode "<?php\ndeclare(encoding='a\x00b');\nuse A;\n") default)]

/-- One such file takes the outcomes of the whole batch away. -/
theorem fixIssues_zeroDeclared :
    ((fresh false {}).fixIssues zeroDeclared {} [⟨Rule.imports.label, "A", "c.php", 3, .warning, "", none⟩]).2.toOption =
      none := by
  decide +kernel

end Batch

end Session
end DeadCode.Fix
