import DeadCode.Analysis.Rule
import DeadCode.Proofs.Lines
import DeadCode.Proofs.TextPieces
import DeadCode.Report.Lines

/-!
# What annotations tell

An annotation puts the level, the path, the line, the rule and the message of an issue into one text, with markers between
them. Only the message is escaped. So an annotation tells what it is made of as long as the path does not hold a marker, or
end in what looks like a line, and the rule does not hold the marker of the message (`Told.Clear`); no name of a rule does
(`not_messageMark_label`). Annotations of such issues are different if anything that they tell is
(`annotations_tell_issues`), and paths that are not clear are mistaken for others (`Told.exists_same_text`). Paths and rules
are written with their line feeds, each of which adds a line.
-/

namespace DeadCode.Report
set_option autoImplicit false

/-- What an annotation is to tell of an issue. -/
structure Told where
  path : String
  line : Int
  rule : String
  severity : Severity
  message : String

/-- What the annotation of an issue is to tell. -/
def told (r : Report) (i : Issue) : Told := ⟨r.pathOf i, i.line, i.rule, i.severity, i.message⟩

/-- One character of a message on one line. -/
def annotationChar (c : Char) : List Char :=
  if c = '%' then "%25".toList else if c = '\r' then "%0D".toList else if c = '\n' then "%0A".toList else [c]

/-- The marker before the rule. -/
def titleMark : List Char := ",title=".toList

/-- The marker before the message. -/
def messageMark : List Char := "::".toList

/-- The line as it stands in an annotation; zero is left out. -/
def lineProperty (line : Int) : List Char := if line = 0 then [] else ",line=".toList ++ (toString line).toList

namespace Told

/-- The path holds no marker, and where no line follows it does not end in what looks like one. -/
structure ClearPath (t : Told) : Prop where
  title : ¬titleMark <:+: t.path.toList
  line : t.line = 0 → ∀ n : Int, n ≠ 0 → ¬lineProperty n <:+ t.path.toList

/-- Neither the path nor the rule can be mistaken for what follows. -/
structure Clear (t : Told) : Prop extends ClearPath t where
  rule : ¬messageMark <:+: t.rule.toList ++ [':']

/-- The annotation that tells it. -/
def text (t : Told) : List Char :=
  "::".toList ++ (annotationLevel t.severity).toList ++ " file=".toList ++
    ((t.path.toList ++ lineProperty t.line) ++ titleMark ++
      (t.rule.toList ++ messageMark ++ t.message.toList.flatMap annotationChar))

end Told

section Messages

theorem toList_escaped (s : String) : (annotationText s).toList = s.toList.flatMap annotationChar := by
  have percent : "%".toList = ['%'] := rfl
  have back : "\r".toList = ['\r'] := rfl
  have feed : "\n".toList = ['\n'] := rfl
  rw [annotationText, Text.toList_replace feed, Text.toList_replace back, Text.toList_replace percent,
    List.flatMap_assoc, List.flatMap_assoc]
  congr 1
  funext c
  by_cases isPercent : c = '%'
  · subst isPercent
    decide
  by_cases isBack : c = '\r'
  · subst isBack
    decide
  by_cases isFeed : c = '\n'
  · subst isFeed
    decide
  · simp [annotationChar, isPercent, isBack, isFeed, Ne.symm isPercent, Ne.symm isBack, Ne.symm isFeed]

/-- No sign of a message starts another one. -/
theorem prefixFree_annotationChar : Text.PrefixFree annotationChar := by
  intro a b s t eq
  unfold annotationChar at eq
  grind

theorem annotationChar_ne_nil (c : Char) : annotationChar c ≠ [] := by
  unfold annotationChar
  repeat' split
  all_goals simp

/-- The signs of a message hold no line end. -/
theorem not_mem_annotationChar {e : Char} (lineEnd : e = '\n' ∨ e = '\r') (c : Char) : e ∉ annotationChar c := by
  unfold annotationChar
  repeat' split
  · rcases lineEnd with rfl | rfl <;> decide
  · rcases lineEnd with rfl | rfl <;> decide
  · rcases lineEnd with rfl | rfl <;> decide
  · next back feed => rcases lineEnd with rfl | rfl <;> grind

theorem not_mem_message {e : Char} (lineEnd : e = '\n' ∨ e = '\r') (cs : List Char) : e ∉ cs.flatMap annotationChar := by
  intro mem
  obtain ⟨c, -, inside⟩ := List.mem_flatMap.1 mem
  exact not_mem_annotationChar lineEnd c inside

end Messages

theorem toList_annotationLine (r : Report) (i : Issue) : (r.annotationLine i).toList = (r.told i).text := by
  have line : (if i.line = 0 then "" else ",line=" ++ toString i.line).toList = lineProperty i.line := by
    unfold lineProperty
    split
    · rfl
    · exact String.toList_append
  unfold annotationLine
  simp only [String.toList_append, line]
  rw [toList_escaped]
  simp only [Told.text, told, List.append_assoc]
  rfl

section Properties

theorem comma_not_mem_line (n : Int) : ',' ∉ "line=".toList ++ (toString n).toList := by
  rw [List.mem_append, not_or]
  exact ⟨by decide, Text.not_mem_toString_int rfl (by decide)⟩

theorem lineProperty_zero : lineProperty 0 = [] := rfl

theorem lineProperty_of_ne_zero {n : Int} (some : n ≠ 0) :
    lineProperty n = ',' :: ("line=".toList ++ (toString n).toList) := by
  rw [lineProperty, if_neg some]
  rfl

/-- The marker of the rule occurs in no line. -/
theorem not_titleMark_line (n : Int) : ¬titleMark <:+: lineProperty n := by
  by_cases none : n = 0
  · rw [none, lineProperty_zero]
    decide
  · rw [lineProperty_of_ne_zero none]
    rintro ⟨before, after, eq⟩
    cases before with
    | nil =>
      have second : 't' = 'l' := (List.cons.inj (List.cons.inj eq).2).1
      exact absurd second (by decide)
    | cons c before =>
      refine comma_not_mem_line n ?_
      rw [← (List.cons.inj eq).2]
      exact List.mem_append_left _ (List.mem_append_right _ List.mem_cons_self)

/-- The marker of the rule occurs first where it is put. -/
theorem Told.ClearPath.not_titleMark {t : Told} (clear : t.ClearPath) :
    ¬titleMark <:+: (t.path.toList ++ lineProperty t.line) ++ titleMark.dropLast := by
  have once : ',' ∉ "title=".toList := by decide
  have inPath : ¬titleMark <:+: t.path.toList ++ lineProperty t.line := by
    by_cases none : t.line = 0
    · rw [none, lineProperty_zero, List.append_nil]
      exact clear.title
    · have line := not_titleMark_line t.line
      rw [lineProperty_of_ne_zero none] at line ⊢
      exact fun inside => ((Text.infix_append_iff once).1 inside).elim clear.title line
  intro inside
  rcases (Text.infix_append_iff once).1 inside with before | last
  · exact inPath before
  · exact absurd last.length_le (by decide)

/-- A path without a comma is clear. -/
theorem Told.ClearPath.of_comma_not_mem {t : Told} (plain : ',' ∉ t.path.toList) : t.ClearPath where
  title := by
    intro inside
    exact plain (inside.subset (by decide))
  line := by
    intro _ n some suffix
    rw [lineProperty_of_ne_zero some] at suffix
    exact plain (suffix.subset List.mem_cons_self)

/-- The names of the rules are clear. -/
theorem not_messageMark_label (rule : Rule) : ¬messageMark <:+: rule.label.toList ++ [':'] := by
  cases rule <;> decide

/-- The path and the line can be told apart. -/
theorem Told.ClearPath.path_line_inj {t t' : Told} (clear : t.ClearPath) (clear' : t'.ClearPath)
    (eq : t.path.toList ++ lineProperty t.line = t'.path.toList ++ lineProperty t'.line) :
    t.path = t'.path ∧ t.line = t'.line := by
  by_cases none : t.line = 0
  · by_cases none' : t'.line = 0
    · rw [none, none'] at eq
      exact ⟨String.toList_inj.1 (List.append_cancel_right eq), none.trans none'.symm⟩
    · refine absurd ?_ (clear.line none t'.line none')
      rw [none, lineProperty_zero, List.append_nil] at eq
      exact eq ▸ List.suffix_append _ _
  · by_cases none' : t'.line = 0
    · refine absurd ?_ (clear'.line none' t.line none)
      rw [none', lineProperty_zero, List.append_nil] at eq
      exact eq ▸ List.suffix_append _ _
    · rw [lineProperty_of_ne_zero none, lineProperty_of_ne_zero none'] at eq
      obtain ⟨path, line⟩ := Text.append_cons_inj_of_not_mem (comma_not_mem_line _) (comma_not_mem_line _) eq
      exact ⟨String.toList_inj.1 path, Text.toString_int_inj (String.toList_inj.1 (List.append_cancel_left line))⟩

theorem level_inj {s s' : Severity} {x y : List Char}
    (eq : "::".toList ++ (annotationLevel s).toList ++ " file=".toList ++ x =
      "::".toList ++ (annotationLevel s').toList ++ " file=".toList ++ y) : s = s' ∧ x = y := by
  cases s <;> cases s' <;> simp_all [annotationLevel]

/-- An annotation with what follows, part by part. -/
theorem Told.text_append (t : Told) (x : List Char) : t.text ++ x =
    "::".toList ++ (annotationLevel t.severity).toList ++ " file=".toList ++
      ((t.path.toList ++ lineProperty t.line) ++ titleMark ++
        (t.rule.toList ++ messageMark ++ (t.message.toList.flatMap annotationChar ++ x))) := by
  simp only [Told.text, List.append_assoc]

/-- **An annotation can be read.** Whatever line follows, the annotation of a clear issue tells what it is made of. -/
theorem Told.Clear.text_inj {t t' : Told} (clear : t.Clear) (clear' : t'.Clear) {x y : List Char}
    (next : Text.StartsWith '\n' x) (next' : Text.StartsWith '\n' y) (eq : t.text ++ x = t'.text ++ y) :
    t = t' ∧ x = y := by
  rw [Told.text_append, Told.text_append] at eq
  obtain ⟨severity, eq⟩ := level_inj eq
  obtain ⟨place, eq⟩ := Text.append_marker_inj clear.not_titleMark clear'.not_titleMark eq
  obtain ⟨rule, eq⟩ := Text.append_marker_inj (m := messageMark) clear.rule clear'.rule eq
  have feed (cs : List Char) := not_mem_message (Or.inl rfl : '\n' = '\n' ∨ '\n' = '\r') cs
  obtain ⟨message, eq⟩ := Text.append_inj_of_startsWith (feed _) (feed _) next next' eq
  obtain ⟨path, line⟩ := clear.path_line_inj clear'.toClearPath place
  have message := prefixFree_annotationChar.flatMap_inj annotationChar_ne_nil message
  refine ⟨?_, eq⟩
  rw [show t = ⟨t.path, t.line, t.rule, t.severity, t.message⟩ from rfl, path, line, severity, String.toList_inj.1 rule,
    String.toList_inj.1 message]

/-- An issue whose path is not clear has the annotation of another one. -/
theorem Told.exists_same_text {t : Told} (unclear : ¬t.ClearPath) : ∃ t' : Told, t' ≠ t ∧ t'.text = t.text := by
  by_cases marked : titleMark <:+: t.path.toList
  · -- what follows the marker in the path reads as a part of the rule
    obtain ⟨before, after, eq⟩ := marked
    refine ⟨{ t with
      path := String.ofList before, line := 0
      rule := String.ofList (after ++ lineProperty t.line ++ titleMark ++ t.rule.toList) }, fun same => ?_, ?_⟩
    · have shorter := congrArg (fun t => t.path.toList.length) same
      have marked : 0 < titleMark.length := by decide
      simp only [← eq, String.toList_ofList, List.length_append] at shorter
      omega
    · simp only [Told.text, ← eq, String.toList_ofList, lineProperty_zero, List.append_assoc, List.nil_append]
  · -- the end of the path reads as its line
    have line : ¬(t.line = 0 → ∀ n : Int, n ≠ 0 → ¬lineProperty n <:+ t.path.toList) := fun line => unclear ⟨marked, line⟩
    push Not at line
    obtain ⟨none, n, some, before, eq⟩ := line
    refine ⟨{ t with path := String.ofList before, line := n }, fun same => some ?_, ?_⟩
    · rw [← none]
      exact congrArg Told.line same
    · simp only [Told.text, ← eq, none, String.toList_ofList, lineProperty_zero, List.append_nil]

end Properties

section Lines

/-- Annotations of clear issues, each on a line below another one, tell what they are made of. -/
theorem flatMap_text_inj {ts ts' : List Told} (clear : ∀ t ∈ ts, t.Clear) (clear' : ∀ t ∈ ts', t.Clear)
    (eq : (ts.map Told.text).flatMap ('\n' :: ·) = (ts'.map Told.text).flatMap ('\n' :: ·)) : ts = ts' := by
  have next (us : List Told) : Text.StartsWith '\n' ((us.map Told.text).flatMap ('\n' :: ·)) := by
    intro c first
    cases us with
    | nil => cases first
    | cons u us => exact (Option.some.inj first).symm
  induction ts generalizing ts' with
  | nil =>
    cases ts' with
    | nil => rfl
    | cons t' ts' => cases eq
  | cons t ts ih =>
    cases ts' with
    | nil => cases eq
    | cons t' ts' =>
      obtain ⟨here, others⟩ := List.forall_mem_cons.1 clear
      obtain ⟨here', others'⟩ := List.forall_mem_cons.1 clear'
      obtain ⟨same, rest⟩ := here.text_inj here' (next ts) (next ts') (List.cons.inj eq).2
      rw [same, ih others others' rest]

/-- Annotations of clear issues tell what they are made of. -/
theorem intercalate_text_inj {ts ts' : List Told} (clear : ∀ t ∈ ts, t.Clear) (clear' : ∀ t ∈ ts', t.Clear)
    (eq : ['\n'].intercalate (ts.map Told.text) = ['\n'].intercalate (ts'.map Told.text)) : ts = ts' := by
  have whole (t : Told) (us : List Told) := Text.cons_intercalate '\n' (List.cons_ne_nil t.text (us.map Told.text))
  have filled (t : Told) (us : List Told) : ['\n'].intercalate ((t :: us).map Told.text) ≠ [] := by
    intro none
    have lines := whole t us
    rw [List.map_cons] at none
    rw [none] at lines
    simp [Told.text] at lines
  cases ts with
  | nil =>
    cases ts' with
    | nil => rfl
    | cons t' ts' => exact absurd eq.symm (filled t' ts')
  | cons t ts =>
    cases ts' with
    | nil => exact absurd eq (filled t ts)
    | cons t' ts' =>
      apply flatMap_text_inj clear clear'
      rw [List.map_cons, List.map_cons] at eq ⊢
      rw [← whole t ts, ← whole t' ts', eq]

theorem toList_annotations (r : Report) : r.annotations.toList = ['\n'].intercalate ((r.issues.map r.told).map Told.text) := by
  have each : (r.issues.map r.annotationLine).map String.toList = (r.issues.map r.told).map Told.text := by
    rw [List.map_map, List.map_map]
    exact List.map_congr_left fun i _ => toList_annotationLine r i
  rw [annotations, Text.join, String.toList_intercalate, each]
  rfl

/-- An annotation has the line ends of its path and its rule. -/
theorem count_text (t : Told) {e : Char} (lineEnd : e = '\n' ∨ e = '\r') :
    t.text.count e = t.path.toList.count e + t.rule.toList.count e := by
  have message := List.count_eq_zero.2 (not_mem_message lineEnd t.message.toList)
  have number : (toString t.line).toList.count e = 0 := by
    rw [List.count_eq_zero]
    rcases lineEnd with rfl | rfl
    · exact Text.not_mem_toString_int rfl (by decide)
    · exact Text.not_mem_toString_int rfl (by decide)
  have fixed : "::".toList.count e = 0 ∧ " file=".toList.count e = 0 ∧ ",line=".toList.count e = 0 ∧ titleMark.count e = 0 ∧
      messageMark.count e = 0 := by
    rcases lineEnd with rfl | rfl <;> decide
  have line : (lineProperty t.line).count e = 0 := by
    unfold lineProperty
    split
    · exact List.count_nil
    · rw [List.count_append, fixed.2.2.1, number]
  have level : (annotationLevel t.severity).toList.count e = 0 := by
    rcases lineEnd with rfl | rfl <;> cases t.severity <;> decide
  simp only [Told.text, List.count_append, message, line, fixed, level]
  omega

/-- How many line ends the paths and the rules of the issues hold. -/
def lineEndsWithin (r : Report) (e : Char) : Nat :=
  (r.issues.flatMap fun i => (r.pathOf i).toList ++ i.rule.toList).count e

theorem count_flatten_text (r : Report) {e : Char} (lineEnd : e = '\n' ∨ e = '\r') :
    ((r.issues.map r.told).map Told.text).flatten.count e = r.lineEndsWithin e := by
  unfold lineEndsWithin
  induction r.issues with
  | nil => rfl
  | cons i is ih =>
    rw [List.map_cons, List.map_cons, List.flatten_cons, List.count_append, count_text _ lineEnd, ih, List.flatMap_cons,
      List.count_append, List.count_append]
    rfl

end Lines

/-- **What annotations tell.** Two reports whose issues are all clear have the same annotations exactly if they are about the
same issues, as far as annotations tell them: the paths as shown, lines, rules, severities and messages, one by one. Of any
report, clear or not, the annotations take one line for each issue, and one more for each line feed in a path or a rule;
their carriage returns are those of the paths and the rules. An issue whose path is not clear has the annotation of another
one. -/
theorem annotations_tell_issues (r r' : Report) :
    ((∀ i ∈ r.issues, (r.told i).Clear) → (∀ i ∈ r'.issues, (r'.told i).Clear) →
      (r.annotations = r'.annotations ↔ r.issues.map r.told = r'.issues.map r'.told)) ∧
    (r.issues ≠ [] → (Text.splitAt '\n' r.annotations).length = r.issues.length + r.lineEndsWithin '\n') ∧
    r.annotations.toList.count '\r' = r.lineEndsWithin '\r' ∧
    ∀ i ∈ r.issues, ¬(r.told i).ClearPath → ∃ t : Told, t ≠ r.told i ∧ String.ofList t.text = r.annotationLine i := by
  refine ⟨fun clear clear' => ⟨fun same => ?_, fun same => ?_⟩, fun filled => ?_, ?_, fun i _ unclear => ?_⟩
  · have same := congrArg String.toList same
    rw [toList_annotations, toList_annotations] at same
    exact intercalate_text_inj (List.forall_mem_map.2 clear) (List.forall_mem_map.2 clear') same
  · rw [← String.toList_inj, toList_annotations, toList_annotations, same]
  · have some : (r.issues.map r.told).map Told.text ≠ [] := by simpa using filled
    have count := Text.count_intercalate_self '\n' some
    rw [← toList_annotations, count_flatten_text r (Or.inl rfl)] at count
    rw [Text.length_splitAt, count]
    simp
  · rw [toList_annotations, Text.count_intercalate_of_ne (by decide), count_flatten_text r (Or.inr rfl)]
  · obtain ⟨t, other, same⟩ := Told.exists_same_text unclear
    refine ⟨t, other, ?_⟩
    rw [same, ← toList_annotationLine, String.ofList_toList]

/-- A message with a marker, and with a line end or with what stands for one. -/
def pipes (message : String) : Report := {
  issues := [{ rule := Rule.methods.label, symbol := "Pipe::flow", file := "/shop/a.php", line := 3, message }]
  root := some (Path.ofString "/shop") }

theorem clear_pipes (message : String) : ∀ i ∈ (pipes message).issues, ((pipes message).told i).Clear := by
  intro i given
  obtain rfl := List.mem_singleton.1 given
  have path : ',' ∉ (shownPath (some (Path.ofString "/shop")) "/shop/a.php").toList := by decide
  exact { toClearPath := .of_comma_not_mem path, rule := not_messageMark_label .methods }

theorem annotations_tell_issues_pipes :
    (pipes "a::b\n,title=c").annotations ≠ (pipes "a::b%0A,title=c").annotations ∧
    (Text.splitAt '\n' (pipes "a::b\n,title=c").annotations).length = 1 := by
  obtain ⟨same, lines, -, -⟩ := annotations_tell_issues (pipes "a::b\n,title=c") (pipes "a::b%0A,title=c")
  constructor
  · rw [Ne, same (clear_pipes _) (clear_pipes _)]
    intro eq
    exact absurd (congrArg Told.message (List.cons.inj eq).1) (by decide)
  · rw [lines (List.cons_ne_nil _ _)]
    decide +kernel

/-- The issue of a file of that name, at a line. -/
def named (file : String) (line : Int) : Report := {
  issues := [{ rule := "unused-classes", symbol := "Pump", file, line, message := "Class 'Pump' is never used" }]
  root := some (Path.ofString "/shop") }

/-- A file whose name ends in what looks like a line is taken for another one, and a file whose name has a line feed takes two
lines. -/
theorem annotations_named :
    (named "/shop/a.php,line=3" 0).annotations = (named "/shop/a.php" 3).annotations ∧
    (named "/shop/a.php,line=3" 0).issues.map (named "/shop/a.php,line=3" 0).told ≠
      (named "/shop/a.php" 3).issues.map (named "/shop/a.php" 3).told ∧
    (Text.splitAt '\n' (named "/shop/a\nb.php" 3).annotations).length = 2 ∧ (named "/shop/a\nb.php" 3).issues.length = 1 := by
  refine ⟨by decide +kernel, fun eq => ?_, by decide +kernel, rfl⟩
  exact absurd (congrArg Told.line (List.cons.inj eq).1) (by decide)

end DeadCode.Report
