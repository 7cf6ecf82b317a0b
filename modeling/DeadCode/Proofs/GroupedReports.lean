import DeadCode.Proofs.ElementReading
import DeadCode.Proofs.Grouping
import DeadCode.Report.Format

/-!
# What grouped reports tell

Three parts of a report put the issues into groups and count each group on its own. They are looked at as a reader sees them:
the two documents are read back into elements, and the numbers in their attributes as numbers. The suites of a report are the
rules that occur, and their test cases are the issues (`SuitesTell`); the file groups hold every issue once (`FilesTell`); and
the counts of groups add up to the counts of the whole (`grouped_reports_conserve`).
-/

namespace DeadCode
set_option autoImplicit false

open Markup

namespace Markup.Element

/-- The name of an element. -/
def tag : Element → String
  | .node tag _ _ _ => tag

/-- The value of an attribute. -/
def attribute? : Element → String → Option String
  | .node _ attributes _ _, key => Assoc.get? attributes key

/-- The text inside of an element. -/
def text : Element → String
  | .node _ _ text _ => text

/-- The elements inside of an element. -/
def children : Element → List Element
  | .node _ _ _ children => children

/-- The number in an attribute. -/
def count? (e : Element) (key : String) : Option Nat := (e.attribute? key).bind fun s => numeral? s.toList

theorem count?_eq {e : Element} {key : String} {n : Nat} (held : e.attribute? key = some (toString n)) :
    e.count? key = some n := by
  rw [count?, held, Option.bind_some, numeral?_toString]

theorem proper_leaf {tag : String} {as : List (String × String)} (name : isName tag = true)
    (names : ∀ a ∈ as, isName a.1 = true) (text : String) : (leaf tag as text).Proper :=
  .node name names (fun filled => absurd rfl filled) (by simp)

theorem proper_around {tag : String} {as : List (String × String)} {es : List Element} (name : isName tag = true)
    (names : ∀ a ∈ as, isName a.1 = true) (inside : ∀ e ∈ es, e.Proper) : (around tag as es).Proper :=
  .node name names (fun _ => rfl) inside

end Markup.Element

namespace Report

open Element

/-- The sum of the numbers in an attribute. -/
def sum? (key : String) : List Element → Option Nat
  | [] => some 0
  | e :: es => (e.count? key).bind fun n => (sum? key es).map (n + ·)

/-- Number of test cases with such an outcome. -/
def outcomes (tag : String) (cases : List Element) : Nat := cases.countP fun e => e.children.any (·.tag == tag)

/-- A test case tells an issue. Its only child is an error or a failure. -/
structure CaseTells (r : Report) (i : Issue) (e : Element) : Prop where
  tag : e.tag = "testcase"
  symbol : e.attribute? "name" = some i.symbol
  path : e.attribute? "classname" = some (r.pathOf i)
  line : e.attribute? "line" = if i.line = 0 then none else some (toString i.line)
  outcome : ∃ o, e.children = [o] ∧ o.tag = (if i.severity = .error then "error" else "failure") ∧
    o.attribute? "type" = some i.rule ∧ o.attribute? "message" = some i.message

/-- A suite tells the issues of a rule in their order. Its counts are those of its test cases. -/
structure SuiteTells (r : Report) (rule : String) (e : Element) : Prop where
  tag : e.tag = "testsuite"
  name : e.attribute? "name" = some rule
  cases : List.Forall₂ (CaseTells r) (r.issues.filter (·.rule == rule)) e.children
  tests : e.count? "tests" = some e.children.length
  errors : e.count? "errors" = some (outcomes "error" e.children)
  failures : e.count? "failures" = some (outcomes "failure" e.children)
  sum : outcomes "error" e.children + outcomes "failure" e.children = e.children.length

/-- There is a suite for each rule that occurs, in order, and the counts of the suites add up to those of the whole. -/
structure SuitesTell (r : Report) (root : Element) : Prop where
  tag : root.tag = "testsuites"
  suites : ∃ rules : List String, rules.Pairwise (· < ·) ∧
    (∀ rule, rule ∈ rules ↔ ∃ i ∈ r.issues, i.rule = rule) ∧ List.Forall₂ (SuiteTells r) rules root.children
  tests : root.count? "tests" = some r.issues.length
  totals : ∀ key ∈ ["tests", "errors", "failures"], ∃ n, root.count? key = some n ∧ sum? key root.children = some n

/-- An element tells an issue. -/
structure IssueTells (i : Issue) (e : Element) : Prop where
  tag : e.tag = "issue"
  rule : e.attribute? "kind" = some i.rule
  severity : e.attribute? "severity" = some i.severity.label
  line : e.attribute? "line" = some (toString i.line)
  inside : ∃ symbol message, e.children = [symbol, message] ∧ symbol.attribute? "name" = some i.symbol ∧
    symbol.attribute? "kind" = some (i.symbolKind.getD "") ∧ message.text = i.message

/-- A file group tells the issues that are shown at a path in their order. -/
structure FileTells (r : Report) (file : String) (e : Element) : Prop where
  tag : e.tag = "file"
  path : e.attribute? "path" = some file
  issues : List.Forall₂ IssueTells (r.issues.filter (r.pathOf · == file)) e.children

/-- There is a file group for each path that is shown, in order, and together they tell every issue once. -/
structure FilesTell (r : Report) (groups : Element) : Prop where
  files : ∃ paths : List String, paths.Pairwise (· < ·) ∧
    (∀ path, path ∈ paths ↔ ∃ i ∈ r.issues, r.pathOf i = path) ∧ List.Forall₂ (FileTells r) paths groups.children
  once : ∃ is, is.Perm r.issues ∧ List.Forall₂ IssueTells is (groups.children.flatMap Element.children)

/-- A member of a summary counts how often each key occurs. -/
def CountsBy (summary : Json) (member : String) (keys : List String) : Prop :=
  ∃ ps : List (String × Nat), summary.get? member = some (.obj (ps.map fun p => (p.1, .int p.2))) ∧ Tallies keys ps

section Groups

variable {key : Issue → String} {is : List Issue}

/-- What holds of each group holds of the groups in the order of their keys. -/
theorem forall₂_groupBy {T : String → Element → Prop} {element : String × List Issue → Element}
    (each : ∀ k, T k (element (k, is.filter fun i => key i == k))) :
    ∃ ks : List String, ks.Pairwise (· < ·) ∧ (∀ k, k ∈ ks ↔ ∃ i ∈ is, key i = k) ∧
      List.Forall₂ T ks ((groupBy key is).map element) := by
  refine ⟨(groupBy key is).map Prod.fst, pairwise_keys_groupBy key is, fun k => mem_keys_groupBy, ?_⟩
  rw [List.forall₂_map_left_iff, List.forall₂_map_right_iff, List.forall₂_same]
  intro g mem
  have whole : g = (g.1, is.filter fun i => key i == g.1) := Prod.ext rfl (group_eq_filter mem)
  rw [whole]
  exact each g.1

theorem forall₂_map_self {α : Type} {T : α → Element → Prop} {element : α → Element} (each : ∀ a, T a (element a))
    (as : List α) : List.Forall₂ T as (as.map element) := by
  rw [List.forall₂_map_right_iff, List.forall₂_same]
  exact fun a _ => each a

end Groups

section Suites

variable (r : Report)

theorem caseTells (i : Issue) : CaseTells r i (r.testCase i) where
  tag := rfl
  symbol := rfl
  path := rfl
  line := by
    unfold testCase
    split <;> rfl
  outcome := ⟨_, rfl, rfl, rfl, rfl⟩

/-- The issues that an attribute of a suite counts. -/
def counted : List (String × (Issue → Bool)) :=
  [("tests", fun _ => true), ("errors", (·.severity == .error)), ("failures", (·.severity != .error))]

theorem length_errorsOf (is : List Issue) : (errorsOf is).length = is.countP (·.severity == .error) :=
  List.countP_eq_length_filter.symm

/-- Every issue is an error or not. -/
theorem countP_severity (is : List Issue) :
    is.countP (·.severity == .error) + is.countP (·.severity != .error) = is.length := by
  rw [@List.length_eq_countP_add_countP _ (·.severity == .error)]
  congr 2
  funext i
  cases i.severity <;> rfl

/-- The counts of a suite are those of its issues. -/
theorem count?_suiteCounts {p : String × (Issue → Bool)} (mem : p ∈ counted) (tag name : String) (is : List Issue)
    (es : List Element) : (around tag (("name", name) :: suiteCounts is) es).count? p.1 = some (is.countP p.2) := by
  apply count?_eq
  have both := countP_severity is
  simp only [counted, List.mem_cons, List.not_mem_nil, or_false] at mem
  rcases mem with rfl | rfl | rfl
  · simp [around, attribute?, Assoc.get?, suiteCounts]
  · simp [around, attribute?, Assoc.get?, suiteCounts, length_errorsOf]
  · have rest : is.length - (errorsOf is).length = is.countP (·.severity != .error) := by
      rw [length_errorsOf]
      omega
    simp [around, attribute?, Assoc.get?, suiteCounts, rest]

/-- The suite of a rule and its issues. -/
def suite (g : String × List Issue) : Element :=
  .around "testsuite" (("name", g.1) :: suiteCounts g.2) (g.2.map r.testCase)

/-- The outcomes of test cases are the severities of their issues. -/
theorem outcomes_map_testCase (is : List Issue) :
    outcomes "error" (is.map r.testCase) = is.countP (·.severity == .error) ∧
      outcomes "failure" (is.map r.testCase) = is.countP (·.severity != .error) := by
  have outcome (i : Issue) (tag : String) :
      (r.testCase i).children.any (·.tag == tag) = ((if i.severity = .error then "error" else "failure") == tag) :=
    Bool.or_false _
  constructor
  all_goals
    rw [outcomes, List.countP_map]
    congr 1
    funext i
    by_cases error : i.severity = .error <;> simp [outcome, error]

theorem suiteTells (rule : String) : SuiteTells r rule (r.suite (rule, r.issues.filter (·.rule == rule))) := by
  -- what is counted holds for any issues; which ones they are matters for the test cases only
  generalize given : r.issues.filter (·.rule == rule) = is
  have inside : (r.suite (rule, is)).children = is.map r.testCase := rfl
  have counts {p : String × (Issue → Bool)} (mem : p ∈ counted) : (r.suite (rule, is)).count? p.1 = some (is.countP p.2) :=
    count?_suiteCounts mem _ _ _ _
  obtain ⟨error, failure⟩ := r.outcomes_map_testCase is
  constructor
  case tag => rfl
  case name => rfl
  case cases =>
    rw [given, inside]
    exact forall₂_map_self r.caseTells is
  case tests => rw [counts (.head _), List.countP_true, inside, List.length_map]
  case errors => rw [counts (.tail _ (.head _)), inside, error]
  case failures => rw [counts (.tail _ (.tail _ (.head _))), inside, failure]
  case sum => rw [inside, error, failure, List.length_map, countP_severity]

/-- What the suites count adds up to what there is in the groups together. -/
theorem sum?_map_suite {p : String × (Issue → Bool)} (mem : p ∈ counted) (gs : List (String × List Issue)) :
    sum? p.1 (gs.map r.suite) = some ((gs.flatMap Prod.snd).countP p.2) := by
  induction gs with
  | nil => rfl
  | cons g gs ih =>
    rw [List.map_cons, sum?, suite, count?_suiteCounts mem, ih, List.flatMap_cons, List.countP_append]
    rfl

theorem suitesTell : SuitesTell r r.suiteDocument where
  tag := rfl
  suites := forall₂_groupBy r.suiteTells
  tests := by rw [suiteDocument, count?_suiteCounts (.head _), List.countP_true]
  totals := by
    have keys : ["tests", "errors", "failures"] = counted.map Prod.fst := rfl
    intro key named
    rw [keys] at named
    obtain ⟨p, mem, rfl⟩ := List.mem_map.1 named
    refine ⟨r.issues.countP p.2, count?_suiteCounts mem _ _ _ _, ?_⟩
    rw [← (flatMap_groupBy_perm (·.rule) r.issues).countP_eq]
    exact sum?_map_suite r mem _

end Suites

section Files

variable (r : Report)

theorem issueTells (i : Issue) : IssueTells i (issueElement i) where
  tag := rfl
  rule := rfl
  severity := rfl
  line := rfl
  inside := ⟨_, _, rfl, rfl, rfl, rfl⟩

/-- The issues by file. -/
def fileGroups : Element :=
  .around "issues" [] ((groupBy r.pathOf r.issues).map fun g => .around "file" [("path", g.1)] (g.2.map issueElement))

theorem filesTell : FilesTell r r.fileGroups where
  files := forall₂_groupBy fun _ => ⟨rfl, rfl, forall₂_map_self issueTells _⟩
  once := by
    refine ⟨_, flatMap_groupBy_perm r.pathOf r.issues, ?_⟩
    have inside : r.fileGroups.children.flatMap children = ((groupBy r.pathOf r.issues).flatMap Prod.snd).map issueElement := by
      rw [List.map_flatMap]
      exact List.flatMap_map _ _ _
    rw [inside]
    exact forall₂_map_self issueTells _

end Files

section Names

variable (r : Report)

theorem isName_label (s : Severity) : isName s.label = true := by cases s <;> decide

theorem proper_testCase (i : Issue) : (r.testCase i).Proper := by
  refine proper_around (by decide) ?_ ?_
  · split <;> simp [isName, isNameChar]
  · rw [List.forall_mem_singleton]
    refine proper_leaf ?_ (by simp [isName, isNameChar]) _
    split <;> decide

theorem proper_suiteDocument : r.suiteDocument.Proper := by
  have counts (name : String) (is : List Issue) : ∀ a ∈ ("name", name) :: suiteCounts is, isName a.1 = true := by
    simp [suiteCounts, isName, isNameChar]
  refine proper_around (by decide) (counts _ _) (List.forall_mem_map.2 fun g _ => ?_)
  refine proper_around (by decide) (counts _ _) (List.forall_mem_map.2 fun i _ => ?_)
  exact r.proper_testCase i

theorem proper_issueElement (i : Issue) : (issueElement i).Proper := by
  refine proper_around (by decide) (by simp [isName, isNameChar]) ?_
  simp only [List.forall_mem_cons, List.not_mem_nil, false_implies, implies_true, and_true]
  exact ⟨proper_leaf (by decide) (by simp [isName, isNameChar]) _, proper_leaf (by decide) (by simp) _⟩

theorem proper_fileGroups : r.fileGroups.Proper := by
  refine proper_around (by decide) (by simp) (List.forall_mem_map.2 fun g _ => ?_)
  refine proper_around (by decide) (by simp [isName, isNameChar]) (List.forall_mem_map.2 fun i _ => ?_)
  exact proper_issueElement i

/-- A severity that is counted is one of the three. -/
theorem isName_of_mem_bySeverity {p : String × Nat} (mem : p ∈ inKeyOrder r.bySeverity) : isName p.1 = true := by
  have listed : (p.1, p.2) ∈ r.bySeverity := List.mem_mergeSort.1 mem
  obtain ⟨-, occurs⟩ := ((tallies_tally _).counts p.1 p.2).1 listed
  obtain ⟨i, -, label⟩ := List.mem_map.1 occurs
  rw [← label]
  exact isName_label i.severity

theorem proper_summaryElement : r.summaryElement.Proper := by
  have total (tag : String) (name : isName tag = true) (n : String) : (leaf tag [] n).Proper := proper_leaf name (by simp) n
  refine proper_around (by decide) (by simp) ?_
  simp only [List.forall_mem_cons, List.not_mem_nil, false_implies, implies_true, and_true]
  refine ⟨total _ (by decide) _, total _ (by decide) _, total _ (by decide) _, total _ (by decide) _, ?_, ?_⟩
  · refine proper_around (by decide) (by simp) (List.forall_mem_map.2 fun p mem => ?_)
    exact total _ (r.isName_of_mem_bySeverity mem) _
  · refine proper_around (by decide) (by simp) (List.forall_mem_map.2 fun p _ => ?_)
    exact proper_leaf (by decide) (by simp [isName, isNameChar]) _

theorem proper_fileDocument : r.fileDocument.Proper := by
  refine proper_around (by decide) (by simp [isName, isNameChar]) ?_
  simp only [List.forall_mem_cons, List.not_mem_nil, false_implies, implies_true, and_true]
  refine ⟨r.proper_summaryElement, r.proper_fileGroups, ?_⟩
  refine proper_around (by decide) (by simp) (List.forall_mem_map.2 fun f _ => ?_)
  exact proper_leaf (by decide) (by simp [isName, isNameChar]) _

end Names

theorem countsBy_tally {summary : Json} {member : String} {keys : List String}
    (held : summary.get? member = some (tallyJson (tally keys))) : CountsBy summary member keys :=
  ⟨tally keys, held, tallies_tally keys⟩

/-- **Grouped reports keep every issue and every count.** A summary counts each severity and each rule as often as it occurs,
so each of the two adds up to the number of issues. The suites of one document and the file groups of the other are read back
from its text, and tell the issues. -/
theorem grouped_reports_conserve (r : Report) (width : Nat) (verbose : Bool) :
    (CountsBy r.summary "by_severity" (r.issues.map (·.severity.label)) ∧
      CountsBy r.summary "by_rule" (r.issues.map (·.rule))) ∧
    (∃ root, read? (r.render width verbose .junit) = some root ∧ SuitesTell r root) ∧
    ∃ root groups, read? (r.render width verbose .xml) = some root ∧
      root.children.filter (·.tag == "issues") = [groups] ∧ FilesTell r groups := by
  have suites : read? (r.render width verbose .junit) = some r.suiteDocument := read?_document r.proper_suiteDocument
  have files : read? (r.render width verbose .xml) = some r.fileDocument := read?_document r.proper_fileDocument
  refine ⟨⟨countsBy_tally rfl, countsBy_tally rfl⟩, ⟨_, suites, r.suitesTell⟩, _, r.fileGroups, files, ?_, r.filesTell⟩
  rfl

end Report
end DeadCode
