import DeadCode.Proofs.Verdicts

/-!
# Tables after any calls

A table is filled symbol by symbol and then frozen. `Represents t added` says that every way of looking into the table shows
exactly the symbols that were added: all of them, by name, by file, by kind, by owner, the files and the class hierarchy.
Each of these looks into a dictionary or a graph of its own, so the point is that the five stay in step with one list. They do
after any calls (`run_represents`). A frozen table refuses symbols, and the calls that it refuses leave no trace.
-/

namespace DeadCode
set_option autoImplicit false

namespace Text

theorem pairwise_sortStrings (xs : List String) : (sortStrings xs).Pairwise (· ≤ ·) :=
  (List.pairwise_mergeSort (fun a b c => by simpa using fun ab bc => le_trans ab bc)
    (fun a b => by simpa using le_total a b) xs).imp of_decide_eq_true

theorem nodup_sortUnique (xs : List String) : (sortUnique xs).Nodup :=
  (List.mergeSort_perm xs.eraseDups _).nodup_iff.2 (nodup_eraseDups xs)

theorem pairwise_sortUnique (xs : List String) : (sortUnique xs).Pairwise (· < ·) :=
  ((pairwise_sortStrings _).and (nodup_sortUnique xs)).imp fun ⟨le, ne⟩ => lt_of_le_of_ne le ne

theorem mem_sortUnique {xs : List String} {x : String} : x ∈ sortUnique xs ↔ x ∈ xs := by
  rw [sortUnique, sortStrings, List.mem_mergeSort, List.mem_eraseDups]

end Text

namespace SymbolTable

/-- A call that may change a table. -/
inductive Call where
  | add (s : Symbol)
  | addAll (ss : List Symbol)
  | freeze

namespace Call

/-- The symbols that a call is to add. -/
def symbols : Call → List Symbol
  | add s => [s]
  | addAll ss => ss
  | freeze => []

/-- What a call gives: the table after it, or an error. -/
def perform (t : SymbolTable) : Call → Except FrozenError SymbolTable
  | add s => t.add s
  | addAll ss => t.addAll ss
  | freeze => .ok t.freeze

end Call

/-- The table after one call after the other. A call that fails leaves the table to the next one as it is. -/
def run (t : SymbolTable) : List Call → SymbolTable
  | [] => t
  | call :: calls =>
    match call.perform t with
    | .ok t' => run t' calls
    | .error _ => run t calls

/-- The symbols that are added by the calls before the table is frozen. -/
def added : List Call → List Symbol
  | [] => []
  | .freeze :: _ => []
  | .add s :: calls => s :: added calls
  | .addAll ss :: calls => ss ++ added calls

/-- Every look into the table shows exactly the symbols of the list. -/
structure Represents (t : SymbolTable) (added : List Symbol) : Prop where
  toList : t.toList.Perm added
  size : t.size = added.length
  get : ∀ fqn, t.get fqn = added.filter (·.fqn == fqn)
  inFile : ∀ file, t.inFile file = added.filter (·.file == file)
  ofKinds : ∀ kinds : List SymbolKind, kinds.Nodup →
    (t.ofKinds kinds).Perm (added.filter fun s => kinds.contains s.kind) ∧
      ∀ kind ∈ kinds, (t.ofKinds kinds).filter (·.kind == kind) = added.filter (·.kind == kind)
  membersOf : ∀ owner, t.membersOf owner =
    added.filter fun s => s.owner.any fun o => !o.isEmpty && Text.lower o == Text.lower owner
  files : t.files.Pairwise (· < ·)
  mem_files : ∀ file, file ∈ t.files ↔ ∃ s ∈ added, s.file = file
  nodes : t.index.hierarchy.nodes.Nodup ∧ ∀ x, x ∈ t.index.hierarchy.nodes ↔
    ∃ s ∈ added, s.kind.isClassLike = true ∧ (Text.lower s.fqn = x ∨ ∃ p ∈ s.supertypes, Text.lower p = x)
  nodup_edges : t.edges.Nodup
  edges : ∀ x y, (x, y) ∈ t.edges ↔
    ∃ s ∈ added, s.kind.isClassLike = true ∧ x = Text.lower s.fqn ∧ ∃ p ∈ s.supertypes, y = Text.lower p

variable {t : SymbolTable}

theorem toList_perm (t : SymbolTable) : t.toList.Perm t.symbols := by
  have grouped := flatMap_filter_perm Symbol.fqn (nodup_eraseDups (t.symbols.map Symbol.fqn)) t.symbols
  have all : (t.symbols.filter fun s => (t.symbols.map Symbol.fqn).eraseDups.contains s.fqn) = t.symbols := by
    refine List.filter_eq_self.2 fun s given => ?_
    simp only [List.contains_eq_mem, List.mem_eraseDups, decide_eq_true_eq]
    exact List.mem_map_of_mem given
  rw [all] at grouped
  rwa [toList_eq, names_eq, List.flatMap_congr fun fqn _ => t.get_eq_filter fqn]

theorem pairwise_files (t : SymbolTable) : t.files.Pairwise (· < ·) := by
  rw [files_eq]
  exact Text.pairwise_sortUnique _

theorem membersOf_eq (t : SymbolTable) (owner : String) : t.membersOf owner =
    t.symbols.filter fun s => s.owner.any fun o => !o.isEmpty && Text.lower o == Text.lower owner := by
  rw [membersOf_eq_filter]
  refine List.filter_congr fun s _ => ?_
  unfold Symbol.owner?
  cases s.owner with
  | none => rfl
  | some o => by_cases empty : o = "" <;> simp [Option.filter, empty]

/-- A table represents its symbols. -/
theorem represents_symbols (t : SymbolTable) : t.Represents t.symbols where
  toList := t.toList_perm
  size := by rw [size_eq, t.toList_perm.length_eq]
  get := t.get_eq_filter
  inFile := t.inFile_eq_filter
  ofKinds := by
    intro kinds distinct
    rw [ofKinds_eq_flatMap]
    exact ⟨flatMap_filter_perm Symbol.kind distinct t.symbols, fun _ given =>
      filter_flatMap_filter Symbol.kind distinct given t.symbols⟩
  membersOf := t.membersOf_eq
  files := t.pairwise_files
  mem_files := fun _ => Rule.mem_files
  nodes := ⟨t.holds.simple.1, t.holds.nodes⟩
  nodup_edges := t.holds.simple.2
  edges := by
    intro x y
    rw [mem_edges_iff_buildsOn]
    simp only [BuildsOn, eq_comm]

/-! ## One call, and one after the other -/

/-- Is it the call that freezes the table? -/
def Call.isFreeze : Call → Bool
  | freeze => true
  | _ => false

theorem addAll_of_open (opened : t.frozen = false) (ss : List Symbol) :
    ∃ t', t.addAll ss = .ok t' ∧ t'.symbols = t.symbols ++ ss ∧ t'.frozen = false := by
  induction ss generalizing t with
  | nil => exact ⟨t, rfl, (List.append_nil _).symm, opened⟩
  | cons s ss ih =>
    have first : ∃ t', t.add s = .ok t' ∧ t'.symbols = t.symbols ++ [s] ∧ t'.frozen = false := by
      rw [add, if_neg (by simp [opened])]
      exact ⟨_, rfl, rfl, opened⟩
    obtain ⟨t', added, symbols, opened'⟩ := first
    obtain ⟨t'', rest, symbols', opened''⟩ := ih opened'
    refine ⟨t'', ?_, by rw [symbols', symbols, List.append_assoc, List.singleton_append], opened''⟩
    rw [addAll, List.foldlM_cons, added]
    exact rest

theorem perform_of_open (opened : t.frozen = false) (call : Call) :
    ∃ t', call.perform t = .ok t' ∧ t'.symbols = t.symbols ++ call.symbols ∧ t'.frozen = call.isFreeze := by
  cases call with
  | add s =>
    obtain ⟨t', added, result⟩ := addAll_of_open opened [s]
    rw [addAll, List.foldlM_cons] at added
    cases one : t.add s with
    | error e => rw [one] at added; cases added
    | ok t₁ =>
      rw [one] at added
      obtain rfl : t₁ = t' := Except.ok.inj added
      exact ⟨t₁, one, result⟩
  | addAll ss => exact addAll_of_open opened ss
  | freeze => exact ⟨t.freeze, rfl, (List.append_nil _).symm, rfl⟩

theorem perform_of_frozen (frozen : t.frozen = true) (call : Call) :
    call.perform t = match call.symbols with
      | [] => .ok t
      | s :: _ => .error ⟨s.id⟩ := by
  have refused (s : Symbol) : t.add s = .error ⟨s.id⟩ := by rw [add, if_pos frozen]
  cases call with
  | add s => exact refused s
  | addAll ss =>
    cases ss with
    | nil => rfl
    | cons s ss =>
      show List.foldlM SymbolTable.add t (s :: ss) = _
      rw [List.foldlM_cons, refused]
      rfl
  | freeze => exact congrArg Except.ok (ext_symbols rfl frozen.symm)

theorem run_append (calls more : List Call) : run t (calls ++ more) = run (run t calls) more := by
  induction calls generalizing t with
  | nil => rfl
  | cons call calls ih =>
    simp only [List.cons_append, run]
    split
    · exact ih
    · exact ih

/-- Once frozen, a table stays as it is. -/
theorem run_of_frozen (frozen : t.frozen = true) (calls : List Call) : run t calls = t := by
  induction calls with
  | nil => rfl
  | cons call calls ih =>
    rw [run, perform_of_frozen frozen]
    cases call.symbols with
    | nil => exact ih
    | cons s ss => exact ih

/-- A table that is open takes the symbols of all calls before it is frozen. -/
theorem run_of_open (opened : t.frozen = false) (calls : List Call) :
    (run t calls).symbols = t.symbols ++ added calls ∧ (run t calls).frozen = calls.any Call.isFreeze := by
  induction calls generalizing t with
  | nil => exact ⟨(List.append_nil _).symm, opened⟩
  | cons call calls ih =>
    obtain ⟨t', performed, symbols, frozen⟩ := perform_of_open opened call
    rw [run, performed, List.any_cons]
    dsimp only
    cases call with
    | add s =>
      obtain ⟨all, closed⟩ := ih frozen
      exact ⟨by rw [all, symbols, List.append_assoc]; rfl, closed⟩
    | addAll ss =>
      obtain ⟨all, closed⟩ := ih frozen
      exact ⟨by rw [all, symbols, List.append_assoc]; rfl, closed⟩
    | freeze => rw [run_of_frozen frozen]; exact ⟨symbols, frozen⟩

theorem any_isFreeze_iff {calls : List Call} : calls.any Call.isFreeze = true ↔ .freeze ∈ calls := by
  rw [List.any_eq_true]
  constructor
  · rintro ⟨call, given, freezes⟩
    cases call with
    | freeze => exact given
    | add s => cases freezes
    | addAll ss => cases freezes
  · intro given
    exact ⟨.freeze, given, rfl⟩

/-- **Tables after any calls.** Whatever is called on an empty table, every look into it shows exactly the symbols that
were added before it was frozen. Until then each call succeeds. After that a call with a symbol fails, with the first one in
its error, and no call changes the table. -/
theorem run_represents (calls : List Call) :
    (run {} calls).Represents (added calls) ∧
    ((run {} calls).frozen = true ↔ .freeze ∈ calls) ∧
    (.freeze ∉ calls → ∀ call : Call, call.perform (run {} calls) = .ok (run {} (calls ++ [call]))) ∧
    (.freeze ∈ calls → ∀ (call : Call) (s : Symbol) (ss : List Symbol), call.symbols = s :: ss →
      call.perform (run {} calls) = .error ⟨s.id⟩) ∧
    (.freeze ∈ calls → ∀ more, run {} (calls ++ more) = run {} calls) := by
  obtain ⟨symbols, closed⟩ := run_of_open (t := {}) rfl calls
  have frozen : (run {} calls).frozen = true ↔ .freeze ∈ calls := by
    rw [closed, any_isFreeze_iff]
  refine ⟨?_, frozen, fun opened call => ?_, fun closed call s ss brought => ?_, fun closed more => ?_⟩
  · have shown := (run {} calls).represents_symbols
    rwa [symbols] at shown
  · have opened' : (run {} calls).frozen = false := Bool.eq_false_iff.2 (mt frozen.1 opened)
    obtain ⟨t', performed, -⟩ := perform_of_open opened' call
    rw [run_append, run, performed]
    rfl
  · rw [perform_of_frozen (frozen.2 closed), brought]
  · rw [run_append, run_of_frozen (frozen.2 closed)]

/-- A class that is declared twice. -/
def twice : Symbol := { kind := .classType, name := "A", file := "a.php", parents := ["B"] }

/-- A method of it; the owner is spelled in another way. -/
def member : Symbol := { kind := .method, name := "m", file := "a.php", owner := some "a" }

theorem run_represents_twice :
    .freeze ∉ [Call.add twice, .addAll [member, twice]] ∧
    (Call.freeze.perform (run {} [.add twice, .addAll [member, twice]]) =
      .ok (run {} [.add twice, .addAll [member, twice], .freeze])) ∧
    .freeze ∈ [Call.add twice, .addAll [member, twice], .freeze] ∧
    (run {} [.add twice, .addAll [member, twice], .freeze]).Represents [twice, member, twice] ∧
    (Call.addAll [member, twice]).perform (run {} [.add twice, .addAll [member, twice], .freeze]) =
      .error ⟨"method:a::m"⟩ ∧
    run {} [.add twice, .addAll [member, twice], .freeze, .add member] =
      run {} [.add twice, .addAll [member, twice], .freeze] := by
  have opened : .freeze ∉ [Call.add twice, .addAll [member, twice]] := by simp
  have closed : .freeze ∈ [Call.add twice, .addAll [member, twice], .freeze] := by simp
  obtain ⟨shown, -, -, refused, kept⟩ := run_represents [.add twice, .addAll [member, twice], .freeze]
  exact ⟨opened, (run_represents _).2.2.1 opened .freeze, closed, shown, refused closed (.addAll [member, twice]) _ _ rfl,
    kept closed [.add member]⟩

end SymbolTable
end DeadCode
