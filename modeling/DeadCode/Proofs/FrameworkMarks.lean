import DeadCode.Proofs.Assoc
import DeadCode.Proofs.CollectedCode
import DeadCode.Proofs.Hierarchy

/-!
# Marks of frameworks

The rules of a framework list directories, base classes and namespaces. A class that lies in one of them, or has one of them
above it, is marked as used (`Uses`). Frameworks write into the metadata of symbols one after the other, but none of them
reads what another one wrote: a symbol ends up with the reason of the last framework that uses it (`markedBy_eq`). So which
symbols are marked does not depend on the order of the frameworks, and a second run finds nothing to change
(`annotateAll_marks_used`).
-/

namespace DeadCode
set_option autoImplicit false

namespace Symbol

/-- The symbol is marked as used by a framework. -/
def IsMarked (s : Symbol) : Prop := Assoc.get? s.metadata Context.frameworkMark = some (.bool true)

/-- The keys that frameworks write. -/
def markKeys : List String := [Context.frameworkMark, "framework_reason"]

/-- The metadata that is not of frameworks, in its order. -/
def ownMetadata (s : Symbol) : List (String × Json) := s.metadata.filter fun e => !markKeys.contains e.1

/-- The symbol with the mark of a framework and the reason for it. -/
def marked (s : Symbol) (reason : String) : Symbol :=
  { s with
    metadata := Assoc.set (Assoc.set s.metadata Context.frameworkMark (.bool true)) "framework_reason" (.str reason) }

variable (s : Symbol) (reason : String)

theorem isMarked_marked : (s.marked reason).IsMarked := by
  have other : Context.frameworkMark ≠ "framework_reason" := by decide
  rw [IsMarked, marked, Assoc.get?_set_of_ne _ _ other, Assoc.get?_set_self]

theorem ownMetadata_marked : (s.marked reason).ownMetadata = s.ownMetadata := by
  have gone (key : String) (written : key ∈ markKeys) (v : Json) : (!markKeys.contains (key, v).1) = false := by
    simp [written]
  rw [ownMetadata, marked, Assoc.filter_set (gone _ (by simp [markKeys])), Assoc.filter_set (gone _ (by simp [markKeys]))]
  rfl

/-- A later reason takes the place of an earlier one. -/
theorem marked_marked (later : String) : (s.marked reason).marked later = s.marked later := by
  have kept := Assoc.set_of_get? (s.isMarked_marked reason)
  rw [marked, kept]
  simp only [marked, Assoc.set_set]

end Symbol

namespace SymbolTable

/-- The hierarchy does not depend on metadata. -/
theorem hierarchy_eq_of_bare {t t' : SymbolTable} (same : t'.symbols.map Symbol.bare = t.symbols.map Symbol.bare) :
    t'.index.hierarchy = t.index.hierarchy := by
  have entered (ss : List Symbol) : ss.foldl NameGraph.enter {} = (ss.map Symbol.bare).foldl NameGraph.enter {} := by
    rw [List.foldl_map]
    rfl
  rw [hierarchy_eq, entered t'.symbols, same, ← entered t.symbols, hierarchy_eq]

end SymbolTable

namespace Framework

variable (here root : Path)

/-- Why a framework uses a class: by the directory of its file, as seen from the project, by a class above it in the
hierarchy, at whatever depth and whether or not it is declared, or by its namespace. Names of classes are compared in small
letters. -/
inductive Uses (f : Framework) (t : SymbolTable) (s : Symbol) : Prop
  | directory (d : String) : d ∈ f.directories →
      (Text.trimBoth (· == '/') d ++ "/").toList <+: (relativeFile here root s.file).toList → f.Uses t s
  | base (b : String) : b ∈ f.baseClasses → Text.lower (Name.unrooted b) ≠ Text.lower s.fqn →
      Relation.TransGen t.BuildsOn (Text.lower s.fqn) (Text.lower (Name.unrooted b)) → f.Uses t s
  | space (n : String) : n ∈ f.namespaces →
      (Text.lower (Name.trimSeparators n) ++ "\\").toList <+: (Text.lower s.fqn).toList → f.Uses t s

section Reasons

variable {here root} {f : Framework} {t : SymbolTable} {s : Symbol}

/-- The search among the names above a class finds a base class exactly if a path leads to one. -/
theorem any_ancestors_iff : (t.ancestors s.fqn).any (f.baseClasses.map fun b => Text.lower (Name.unrooted b)).contains = true ↔
    ∃ b ∈ f.baseClasses, Text.lower (Name.unrooted b) ≠ Text.lower s.fqn ∧
      Relation.TransGen t.BuildsOn (Text.lower s.fqn) (Text.lower (Name.unrooted b)) := by
  simp only [List.any_eq_true, List.contains_iff_mem, List.mem_map, SymbolTable.mem_ancestors_iff]
  constructor
  · rintro ⟨_, ⟨other, path⟩, b, listed, rfl⟩
    exact ⟨b, listed, other, (SymbolTable.reaches_edges_of_ne other.symm).1 path⟩
  · rintro ⟨b, listed, other, path⟩
    exact ⟨_, ⟨other, (SymbolTable.reaches_edges_of_ne other.symm).2 path⟩, b, listed, rfl⟩

theorem uses_iff : f.Uses here root t s ↔
    (∃ d ∈ f.directories, (Text.trimBoth (· == '/') d ++ "/").toList <+: (relativeFile here root s.file).toList) ∨
    (∃ b ∈ f.baseClasses, Text.lower (Name.unrooted b) ≠ Text.lower s.fqn ∧
      Relation.TransGen t.BuildsOn (Text.lower s.fqn) (Text.lower (Name.unrooted b))) ∨
    ∃ n ∈ f.namespaces, (Text.lower (Name.trimSeparators n) ++ "\\").toList <+: (Text.lower s.fqn).toList := by
  constructor
  · rintro (⟨d, listed, below⟩ | ⟨b, listed, other, path⟩ | ⟨n, listed, below⟩)
    · exact Or.inl ⟨d, listed, below⟩
    · exact Or.inr (Or.inl ⟨b, listed, other, path⟩)
    · exact Or.inr (Or.inr ⟨n, listed, below⟩)
  · rintro (⟨d, listed, below⟩ | ⟨b, listed, other, path⟩ | ⟨n, listed, below⟩)
    · exact .directory d listed below
    · exact .base b listed other path
    · exact .space n listed below

/-- A framework has a reason exactly if it uses the class. -/
theorem isSome_reasonFor_iff : (f.reasonFor here root t s).isSome = true ↔ f.Uses here root t s := by
  have one (a b c : Bool) (x y z : String) :
      (if a then some x else if b then some y else if c then some z else none).isSome = (a || (b || c)) := by
    cases a <;> cases b <;> cases c <;> rfl
  -- without base classes none is found, so the test for an empty list decides nothing
  have bases : (!(f.baseClasses.map fun b => Text.lower (Name.unrooted b)).isEmpty &&
      (t.ancestors s.fqn).any (f.baseClasses.map fun b => Text.lower (Name.unrooted b)).contains) =
      (t.ancestors s.fqn).any (f.baseClasses.map fun b => Text.lower (Name.unrooted b)).contains := by
    cases f.baseClasses with
    | nil => simp
    | cons b bs => simp
  rw [uses_iff, ← any_ancestors_iff, ← bases]
  unfold reasonFor
  rw [one, Bool.or_eq_true, Bool.or_eq_true]
  simp only [List.any_eq_true, Text.startsWith, List.isPrefixOf_iff_prefix, Name.trimSeparators]
  rfl

/-- What a framework finds on a class depends neither on metadata nor on anything of the table but the hierarchy. -/
theorem reasonFor_eq {t' : SymbolTable} {s' : Symbol} (same : t'.index.hierarchy = t.index.hierarchy) (bare : s'.bare = s.bare) :
    f.reasonFor here root t' s' = f.reasonFor here root t s := by
  have fqn : s'.fqn = s.fqn := (congrArg Symbol.fqn bare :)
  have file : s'.file = s.file := (congrArg Symbol.file bare :)
  unfold reasonFor SymbolTable.ancestors SymbolTable.edges
  rw [same, fqn, file]

end Reasons

section Order

variable (active : List Framework) (t : SymbolTable) (s : Symbol)

/-- The symbol with the marks of one framework after the other, all of which look at the same table. -/
def markedBy : Symbol := active.foldl (fun s f => f.markOne here root t s) s

/-- The reason of the last framework that uses the symbol. -/
def lastReason : Option String :=
  if s.kind.isClassLike then active.reverse.findSome? fun f => f.reasonFor here root t s else none

theorem bare_markedBy : (markedBy here root active t s).bare = s.bare := by
  induction active generalizing s with
  | nil => rfl
  | cons f active ih => exact (ih (f.markOne here root t s)).trans (bare_markOne here root f t s)

/-- **The last framework that uses a symbol gives the reason.** -/
theorem markedBy_eq : markedBy here root active t s =
    match lastReason here root active t s with
    | some reason => s.marked reason
    | none => s := by
  induction active using List.reverseRecOn with
  | nil => simp [markedBy, lastReason]
  | append_singleton active f ih =>
    have step : markedBy here root (active ++ [f]) t s = f.markOne here root t (markedBy here root active t s) := by
      rw [markedBy, List.foldl_append]
      rfl
    have bare := bare_markedBy here root active t s
    have kind : (markedBy here root active t s).kind = s.kind := (congrArg Symbol.kind bare :)
    rw [step, markOne, kind, reasonFor_eq rfl bare, ih]
    unfold lastReason
    cases like : s.kind.isClassLike with
    | false => rfl
    | true =>
      rw [List.reverse_append, List.reverse_singleton, List.singleton_append, List.findSome?_cons]
      cases own : f.reasonFor here root t s with
      | none => rfl
      | some reason =>
        cases active.reverse.findSome? fun g => g.reasonFor here root t s with
        | none => rfl
        | some earlier => exact s.marked_marked earlier reason

/-- The last reason depends neither on metadata nor on anything of the table but the hierarchy. -/
theorem lastReason_eq {t t' : SymbolTable} {s s' : Symbol} (same : t'.index.hierarchy = t.index.hierarchy) (bare : s'.bare = s.bare) :
    lastReason here root active t' s' = lastReason here root active t s := by
  have kind : s'.kind = s.kind := (congrArg Symbol.kind bare :)
  simp only [lastReason, kind, reasonFor_eq same bare]

theorem isSome_lastReason_iff : (lastReason here root active t s).isSome = true ↔
    s.kind.isClassLike = true ∧ ∃ f ∈ active, f.Uses here root t s := by
  unfold lastReason
  cases s.kind.isClassLike with
  | false => simp
  | true => simp only [if_true, List.findSome?_isSome_iff, List.mem_reverse, isSome_reasonFor_iff, true_and]

/-- All marks are made by the hierarchy, which no mark changes. -/
theorem annotateAll_eq :
    (annotateAll active here root t).symbols = t.symbols.map (markedBy here root active t) ∧
      (annotateAll active here root t).frozen = t.frozen := by
  induction active generalizing t with
  | nil =>
    have none : markedBy here root [] t = id := rfl
    rw [none, List.map_id]
    exact ⟨rfl, rfl⟩
  | cons f active ih =>
    have first : annotateAll (f :: active) here root t = annotateAll active here root (f.annotate here root t) := rfl
    have hierarchy : (f.annotate here root t).index.hierarchy = t.index.hierarchy := by
      apply SymbolTable.hierarchy_eq_of_bare
      rw [symbols_annotate, List.map_map]
      exact List.map_congr_left fun s _ => bare_markOne here root f t s
    have same (s : Symbol) : markedBy here root active (f.annotate here root t) s = markedBy here root active t s := by
      rw [markedBy_eq, markedBy_eq, lastReason_eq here root active hierarchy rfl]
    obtain ⟨symbols, frozen⟩ := ih (f.annotate here root t)
    rw [first]
    refine ⟨?_, frozen⟩
    rw [symbols, symbols_annotate, List.map_map]
    exact List.map_congr_left fun s _ => same (f.markOne here root t s)

end Order

/-- What frameworks do to a symbol of a table: they write nothing but their own metadata, they mark exactly the classes that
one of them uses, and they leave every other symbol as it is. -/
structure MarksUsed (active : List Framework) (t : SymbolTable) (s s' : Symbol) : Prop where
  fields : s' = { s with metadata := s'.metadata }
  metadata : s'.ownMetadata = s.ownMetadata
  marked : s.kind.isClassLike = true → (s'.IsMarked ↔ s.IsMarked ∨ ∃ f ∈ active, f.Uses here root t s)
  rest : ¬(s.kind.isClassLike = true ∧ ∃ f ∈ active, f.Uses here root t s) → s' = s

section Marks

variable (active : List Framework) (t : SymbolTable)

theorem marksUsed_markedBy (s : Symbol) : MarksUsed here root active t s (markedBy here root active t s) := by
  have used := isSome_lastReason_iff here root active t s
  rw [markedBy_eq]
  cases last : lastReason here root active t s with
  | none =>
    rw [last] at used
    have unused : ¬(s.kind.isClassLike = true ∧ ∃ f ∈ active, f.Uses here root t s) := fun h => nomatch used.2 h
    refine ⟨rfl, rfl, fun like => ?_, fun _ => rfl⟩
    exact (or_iff_left fun some => unused ⟨like, some⟩).symm
  | some reason =>
    rw [last] at used
    have found := used.1 rfl
    exact ⟨rfl, s.ownMetadata_marked reason, fun _ => iff_of_true (s.isMarked_marked reason) (Or.inr found.2),
      fun unused => absurd found unused⟩

/-- A second run finds every symbol marked as it is. -/
theorem markedBy_markedBy {t' : SymbolTable} (same : t'.index.hierarchy = t.index.hierarchy) (s : Symbol) :
    markedBy here root active t' (markedBy here root active t s) = markedBy here root active t s := by
  have again := lastReason_eq here root active same (bare_markedBy here root active t s)
  rw [markedBy_eq here root active t', again, markedBy_eq here root active t]
  cases lastReason here root active t s with
  | none => rfl
  | some reason => exact s.marked_marked reason reason

/-- **Frameworks mark exactly the classes that they use.** Whatever the table and whatever the frameworks, symbol by symbol:
a class is marked afterwards if it was before, or if for some framework its file lies in a listed directory, a listed base
class is above it, or it lies in a listed namespace; nothing else changes but the reason that is told. A second run changes
nothing, and the frameworks mark the same symbols in any order. -/
theorem annotateAll_marks_used :
    (annotateAll active here root t).frozen = t.frozen ∧
    List.Forall₂ (MarksUsed here root active t) t.symbols (annotateAll active here root t).symbols ∧
    annotateAll active here root (annotateAll active here root t) = annotateAll active here root t ∧
    ∀ active', active'.Perm active →
      List.Forall₂ (fun s s' => s.IsMarked ↔ s'.IsMarked) (annotateAll active' here root t).symbols
        (annotateAll active here root t).symbols := by
  have hierarchy : (annotateAll active here root t).index.hierarchy = t.index.hierarchy :=
    SymbolTable.hierarchy_eq_of_bare (map_bare_annotateAll here root active t)
  have marks := marksUsed_markedBy here root
  have symbols := fun active => (annotateAll_eq here root active t).1
  refine ⟨(annotateAll_eq here root active t).2, ?_, ?_, fun active' order => ?_⟩
  · rw [symbols, List.forall₂_map_right_iff, List.forall₂_same]
    exact fun s _ => marks active t s
  · obtain ⟨again, frozen⟩ := annotateAll_eq here root active (annotateAll active here root t)
    refine SymbolTable.ext_symbols ?_ frozen
    rw [again, symbols, List.map_map]
    exact List.map_congr_left fun s _ => markedBy_markedBy here root active t hierarchy s
  · rw [symbols, symbols, List.forall₂_map_left_iff, List.forall₂_map_right_iff, List.forall₂_same]
    intro s _
    by_cases like : s.kind.isClassLike = true
    · rw [(marks active' t s).marked like, (marks active t s).marked like]
      simp only [order.mem_iff]
    · rw [(marks active' t s).rest fun used => like used.1, (marks active t s).rest fun used => like used.1]

/-- A framework that runs everything in two directories. -/
def runner : Framework := { name := "runner", directories := ["/app/", "bin"] }

/-- A framework that knows its classes by what they build on or by their namespace. -/
def kernel : Framework := { name := "kernel", baseClasses := ["\\Core\\Kernel"], namespaces := ["\\Plugin\\"] }

/-- Two classes that extend each other, one of which implements a base class in other letters, a class that is declared twice,
in a directory that is listed and in one that is not, a class of a namespace, and the base class itself. -/
def office : SymbolTable := .ofSymbols [
  { kind := .classType, name := "A", file := "/p/lib/a.php", parents := ["B"] },
  { kind := .classType, name := "B", file := "/p/lib/b.php", parents := ["A"], interfaces := ["core\\KERNEL"] },
  { kind := .classType, name := "C", file := "/p/app/c.php" },
  { kind := .classType, name := "C", file := "/p/application/c.php" },
  { kind := .enumType, name := "Mode", space := "plugin", file := "/p/lib/mode.php" },
  { kind := .interfaceType, name := "Kernel", space := "Core", file := "/p/lib/kernel.php" },
  { kind := .function, name := "run", file := "/p/bin/run.php" }]

theorem annotateAll_marks_used_office :
    [kernel, runner].Perm [runner, kernel] ∧
    List.Forall₂ (fun s s' => s.IsMarked ↔ s'.IsMarked)
      (annotateAll [kernel, runner] {} (Path.ofString "/p") office).symbols
      (annotateAll [runner, kernel] {} (Path.ofString "/p") office).symbols ∧
    (annotateAll [runner, kernel] {} (Path.ofString "/p") office).symbols.map (·.hasMark Context.frameworkMark) =
      [true, true, true, false, true, false, false] := by
  have order : [kernel, runner].Perm [runner, kernel] := .swap ..
  have same := (annotateAll_marks_used {} (Path.ofString "/p") [runner, kernel] office).2.2.2
  exact ⟨order, same _ order, by decide +kernel⟩

end Marks
end Framework
end DeadCode
