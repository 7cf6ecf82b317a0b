import DeadCode.Proofs.Addresses

/-!
# The verdict on a tree

An error shows in a tree as a node of its own, as a token that the text lacks, or only as a mark on a node. The verdict first asks
the root, which has an error if any node below it has one, and then walks the tree with a stack to find the node to report. The
two agree: a tree is refused exactly if one of its nodes shows an error, at whatever depth (`hasError_iff`), and since the stack
gives the nodes in document order (`traverse_eq_preorder`), what is reported is the first error node or missing token of the
text, or the root where errors are marked only (`verdict_exact`).
-/

namespace DeadCode.Node
set_option autoImplicit false

/-- An error node, or a token that the text lacks. -/
def IsFault (n : Node) : Prop := n.kind = "ERROR" ∨ n.info.missing = true

/-- A node that shows an error itself: it is a fault or marked. -/
def ShowsError (n : Node) : Prop := n.info.flawed = true ∨ n.IsFault

/-- The error to report at a node: its line, and what is missing there. -/
def errorAt (n : Node) : ParseError where
  message :=
    if n.info.missing then "Syntax error: missing '" ++ n.kind ++ "' on line " ++ toString n.line
    else "Syntax error on line " ++ toString n.line
  line := n.line

section Propagation

theorem anyError_iff {cs : List Node} : anyError cs = true ↔ ∃ c ∈ cs, c.hasError = true := by
  induction cs with
  | nil => simp [anyError]
  | cons c cs ih => simp [anyError, ih]

/-- An error reaches a node from itself or from a child. -/
theorem hasError_iff_child {n : Node} :
    n.hasError = true ↔ n.ShowsError ∨ ∃ c ∈ n.children, c.hasError = true := by
  cases n with
  | mk i cs =>
    rw [hasError, Bool.or_eq_true, anyError_iff]
    simp only [ShowsError, IsFault, kind, info, children, Bool.or_eq_true, beq_iff_eq, or_assoc]

mutual

theorem hasError_iff_mem : (n : Node) → (n.hasError = true ↔ ∃ m ∈ n.preorder, m.ShowsError)
  | .mk i cs => by
    rw [hasError_iff_child, ← anyError_iff, children, anyError_iff_mem, preorder, List.exists_mem_cons_iff]

theorem anyError_iff_mem : (cs : List Node) → (anyError cs = true ↔ ∃ m ∈ preorderAll cs, m.ShowsError)
  | [] => by simp [anyError, preorderAll]
  | c :: cs => by
    rw [anyError, Bool.or_eq_true, hasError_iff_mem, anyError_iff_mem, preorderAll]
    constructor
    · rintro (⟨m, mem, shows⟩ | ⟨m, mem, shows⟩)
      · exact ⟨m, List.mem_append_left _ mem, shows⟩
      · exact ⟨m, List.mem_append_right _ mem, shows⟩
    · rintro ⟨m, mem, shows⟩
      rcases List.mem_append.1 mem with first | later
      · exact Or.inl ⟨m, first, shows⟩
      · exact Or.inr ⟨m, later, shows⟩

end

/-- An error reaches the root from any depth. -/
theorem hasError_iff {root : Node} : root.hasError = true ↔ ∃ a n, root.at? a = some n ∧ n.ShowsError := by
  rw [hasError_iff_mem]
  constructor
  · rintro ⟨n, mem, shows⟩
    obtain ⟨a, found⟩ := mem_preorder_iff.1 mem
    exact ⟨a, n, found, shows⟩
  · rintro ⟨a, n, found, shows⟩
    exact ⟨n, mem_preorder_iff.2 ⟨a, found⟩, shows⟩

end Propagation

section Stack

theorem preorderAll_append (cs ds : List Node) : preorderAll (cs ++ ds) = preorderAll cs ++ preorderAll ds := by
  induction cs with
  | nil => rfl
  | cons c cs ih => rw [List.cons_append, preorderAll, preorderAll, ih, List.append_assoc]

/-- A stack is walked tree by tree. -/
theorem traverseFrom_eq (stack : List Node) : traverseFrom stack = preorderAll stack := by
  fun_induction traverseFrom stack with
  | case1 => rfl
  | case2 n stack ih =>
    cases n with
    | mk i cs =>
      rw [ih, push_eq_append, children, preorderAll_append, preorderAll, preorder, List.cons_append]

/-- **The stack keeps document order.** -/
theorem traverse_eq_preorder (root : Node) : root.traverse = root.preorder := by
  rw [traverse, traverseFrom_eq, preorderAll, preorderAll, List.append_nil]

end Stack

section Verdict

variable {root n : Node} {e : ParseError}

theorem isFault_iff : (n.kind == "ERROR" || n.info.missing) = true ↔ n.IsFault := by
  rw [Bool.or_eq_true, beq_iff_eq, IsFault]

theorem verdict_eq_error_iff : root.verdict = .error e ↔ ∃ n, root.errorNode? = some n ∧ e = errorAt n := by
  rw [verdict]
  cases root.errorNode? with
  | none => simp
  | some n =>
    have plain : "Syntax error" ++ " on line " = "Syntax error on line " := by decide
    have quoted : "'" ++ " on line " = "' on line " := by decide
    simp only [Option.some.injEq, exists_eq_left', Except.error.injEq, errorAt, ← plain, ← quoted, String.append_assoc, eq_comm]

/-- The node to report: the first fault, or the root where errors are marked only. -/
theorem errorNode?_eq_some_iff :
    root.errorNode? = some n ↔
      (∃ a, root.FirstAt IsFault a n) ∨
        (∀ a m, root.at? a = some m → ¬m.IsFault) ∧ (∃ a m, root.at? a = some m ∧ m.info.flawed = true) ∧ n = root := by
  rw [errorNode?, traverse_eq_preorder, ← find?_preorder_eq_some_iff fun _ => isFault_iff, ← find?_preorder_eq_none_iff fun _ => isFault_iff]
  cases search : root.preorder.find? fun m => m.kind == "ERROR" || m.info.missing with
  | some m =>
    obtain ⟨a, first⟩ := (find?_preorder_eq_some_iff fun _ => isFault_iff).1 search
    have shows : root.hasError = true := hasError_iff.2 ⟨a, m, first.found, Or.inr first.holds⟩
    simp [shows]
  | none =>
    have clean := (find?_preorder_eq_none_iff fun _ => isFault_iff).1 search
    have marked : root.hasError = true ↔ ∃ a m, root.at? a = some m ∧ m.info.flawed = true := by
      rw [hasError_iff]
      constructor
      · rintro ⟨a, m, found, flawed | fault⟩
        · exact ⟨a, m, found, flawed⟩
        · exact absurd fault (clean a m found)
      · rintro ⟨a, m, found, flawed⟩
        exact ⟨a, m, found, Or.inl flawed⟩
    rw [← marked]
    cases root.hasError with
    | true => simp [eq_comm]
    | false => simp

end Verdict

/-- **The verdict is exact.** A tree is refused if and only if one of its nodes is marked, an error node or a missing token. The
error that is reported has the line and the message of the first error node or missing token in document order, and those of
the root where there is none. -/
theorem verdict_exact (root : Node) :
    (∀ n : Node, n.hasError = true ↔
      n.info.flawed = true ∨ n.kind = "ERROR" ∨ n.info.missing = true ∨ ∃ c ∈ n.children, c.hasError = true) ∧
    ((∃ e, root.verdict = .error e) ↔ ∃ a n, root.at? a = some n ∧ n.ShowsError) ∧
    ∀ e, root.verdict = .error e ↔
      (∃ a n, root.FirstAt IsFault a n ∧ e = errorAt n) ∨
        (∀ a n, root.at? a = some n → ¬n.IsFault) ∧ (∃ a n, root.at? a = some n ∧ n.info.flawed = true) ∧
          e = errorAt root := by
  refine ⟨?_, ?_, ?_⟩
  · intro n
    rw [hasError_iff_child, ShowsError, IsFault, or_assoc, or_assoc]
  · rw [← hasError_iff]
    simp only [verdict_eq_error_iff, errorNode?]
    cases root.hasError with
    | true => simp
    | false => simp
  · intro e
    rw [verdict_eq_error_iff]
    constructor
    · rintro ⟨n, reported, rfl⟩
      rcases errorNode?_eq_some_iff.1 reported with ⟨a, first⟩ | ⟨clean, marked, rfl⟩
      · exact Or.inl ⟨a, n, first, rfl⟩
      · exact Or.inr ⟨clean, marked, rfl⟩
    · rintro (⟨a, n, first, rfl⟩ | ⟨clean, marked, rfl⟩)
      · exact ⟨n, errorNode?_eq_some_iff.2 (Or.inl ⟨a, first⟩), rfl⟩
      · exact ⟨root, errorNode?_eq_some_iff.2 (Or.inr ⟨clean, marked, rfl⟩), rfl⟩

end DeadCode.Node
