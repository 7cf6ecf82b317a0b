import DeadCode.Proofs.Sections

/-!
# Places in a tree

The place of a node in its tree is the list of its own position among its siblings and those of the nodes around it, the
innermost first. A walk lists the children of a node in order, with whatever is below each of them in between. So the visits
whose place is one step below that of a visited node are exactly its children (`filter_path_visits`).
-/

namespace DeadCode.Collect
set_option autoImplicit false

/-- The positions of places among their siblings. -/
def positions (around : List Place) : List Nat := around.map (·.earlier.length)

/-- Where a node stands in its tree. -/
def Visit.path (v : Visit) : List Nat := v.earlier.length :: positions v.around

section Paths

theorem eq_of_append_cons {l l' p : List Nat} {a b : Nat} (h : l ++ a :: p = l' ++ b :: p) : a = b :=
  (List.cons.inj (List.append_inj' h rfl).2).1

/-- A path one step up from below one sibling never leads below another. -/
theorem eq_of_tail_append_cons {l l' p : List Nat} {a b : Nat} (h : (l ++ a :: p).tail = l' ++ b :: p) : a = b := by
  cases l with
  | nil =>
    have length := congrArg List.length h
    simp at length
    omega
  | cons c l => exact eq_of_append_cons h

variable (file : String)

mutual

theorem path_of_mem_visitsOf (around : List Place) (earlier : List Node) (scope : Scope) :
    (n : Node) → ∀ w ∈ visitsOf file around earlier scope n, ∃ l, w.path = l ++ earlier.length :: positions around
  | .mk i cs => by
    intro w mem
    rw [visitsOf] at mem
    rcases List.mem_cons.1 mem with rfl | mem
    · exact ⟨[], rfl⟩
    · obtain ⟨l, k, -, path⟩ := path_of_mem_visitsOfChildren _ _ _ _ cs w mem
      exact ⟨l ++ [k], by simp [path, positions]⟩

theorem path_of_mem_visitsOfChildren (around : List Place) (statements : Bool) (earlier : List Node) (scope : Scope) :
    (cs : List Node) → ∀ w ∈ visitsOfChildren file around statements earlier scope cs,
      ∃ l k, earlier.length ≤ k ∧ w.path = l ++ k :: positions around
  | [] => by simp [visitsOfChildren]
  | c :: cs => by
    intro w mem
    rw [visitsOfChildren_cons] at mem
    rcases List.mem_append.1 mem with mem | mem
    · obtain ⟨l, path⟩ := path_of_mem_visitsOf _ _ _ c w mem
      exact ⟨l, _, Nat.le_refl _, path⟩
    · obtain ⟨l, k, le, path⟩ := path_of_mem_visitsOfChildren _ _ _ _ cs w mem
      rw [List.length_cons] at le
      exact ⟨l, k, by omega, path⟩

end

/-- Of what is below a node, the children are one step away from it. -/
theorem filter_path_children (around : List Place) (statements : Bool) (earlier : List Node) (scope : Scope)
    (cs : List Node) :
    (visitsOfChildren file around statements earlier scope cs).filter (fun w => w.path.tail == positions around) =
      childVisits file around statements earlier scope cs := by
  induction cs generalizing earlier scope with
  | nil => simp [visitsOfChildren, childVisits]
  | cons c cs ih =>
    rw [visitsOfChildren_cons, List.filter_append, ih, visitsOf_eq, List.filter_cons_of_pos (by simp [Visit.path]),
      childVisits, List.filter_eq_nil_iff.2, List.cons_append, List.nil_append]
    intro w mem
    obtain ⟨l, k, -, path⟩ := path_of_mem_visitsOfChildren file _ _ _ _ _ w mem
    have longer : (positions around).length < w.path.tail.length := by simp [path, positions]; omega
    intro eq
    rw [eq_of_beq eq] at longer
    omega

mutual

theorem filter_path_visitsOf (around : List Place) (earlier : List Node) (scope : Scope) :
    (n : Node) → ∀ v ∈ visitsOf file around earlier scope n,
      (visitsOf file around earlier scope n).filter (fun w => w.path.tail == v.path) = v.children file
  | .mk i cs => by
    intro v mem
    rw [visitsOf] at mem ⊢
    rcases List.mem_cons.1 mem with rfl | mem
    · rw [List.filter_cons_of_neg (by simp [Visit.path])]
      exact filter_path_children file (⟨.mk i cs, earlier⟩ :: around) _ _ _ cs
    · obtain ⟨l, k, -, path⟩ := path_of_mem_visitsOfChildren file _ _ _ _ cs v mem
      have shorter : positions around ≠ v.path := by
        intro eq
        have length := congrArg List.length (eq.trans path)
        simp [positions] at length
        omega
      rw [List.filter_cons_of_neg (by simpa [Visit.path] using shorter)]
      exact filter_path_visitsOfChildren _ _ _ _ cs v mem

theorem filter_path_visitsOfChildren (around : List Place) (statements : Bool) (earlier : List Node) (scope : Scope) :
    (cs : List Node) → ∀ v ∈ visitsOfChildren file around statements earlier scope cs,
      (visitsOfChildren file around statements earlier scope cs).filter (fun w => w.path.tail == v.path) = v.children file
  | [] => by simp [visitsOfChildren]
  | c :: cs => by
    intro v mem
    rw [visitsOfChildren_cons] at mem ⊢
    rw [List.filter_append]
    rcases List.mem_append.1 mem with mem | mem
    · rw [filter_path_visitsOf _ _ _ c v mem, List.filter_eq_nil_iff.2, List.append_nil]
      intro w later eq
      obtain ⟨l, path⟩ := path_of_mem_visitsOf file _ _ _ c v mem
      obtain ⟨l', k, le, path'⟩ := path_of_mem_visitsOfChildren file _ _ _ _ cs w later
      rw [path, path'] at eq
      have same := eq_of_tail_append_cons (eq_of_beq eq)
      rw [List.length_cons] at le
      omega
    · rw [filter_path_visitsOfChildren _ _ _ _ cs v mem, List.filter_eq_nil_iff.2, List.nil_append]
      intro w first eq
      obtain ⟨l, k, le, path⟩ := path_of_mem_visitsOfChildren file _ _ _ _ cs v mem
      obtain ⟨l', path'⟩ := path_of_mem_visitsOf file _ _ _ c w first
      rw [path, path'] at eq
      have same := eq_of_tail_append_cons (eq_of_beq eq)
      rw [List.length_cons] at le
      omega

end

/-- **The children of a visited node are the visits one step below it.** -/
theorem filter_path_visits {root : Node} {v : Visit} (visited : v ∈ visits file root) :
    (visits file root).filter (fun w => w.path.tail == v.path) = v.children file :=
  filter_path_visitsOf file [] [] {} root v visited

end Paths

end DeadCode.Collect
