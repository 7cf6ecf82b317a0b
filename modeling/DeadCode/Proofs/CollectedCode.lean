import DeadCode.Project.Run
import DeadCode.Proofs.ClassIdentity

/-!
# Rules over collected code

The rules about members ask for the owner of a symbol without a look at whether it has one. Over what is collected from
syntax trees they never ask in vain: every member has an owner, and a class-like symbol of that name is in the table
(`exists_owner_overTrees`). So no rule fails there, whatever the settings are and whatever frameworks and packages add
(`runRule_overTrees`).
-/

namespace DeadCode
set_option autoImplicit false

/-- The symbol without its metadata. -/
def Symbol.bare (s : Symbol) : Symbol := { s with metadata := [] }

namespace Framework

variable (here root : Path)

theorem bare_markOne (f : Framework) (table : SymbolTable) (s : Symbol) : (f.markOne here root table s).bare = s.bare := by
  rw [markOne]
  split
  · rfl
  · split
    · rfl
    · rfl

theorem symbols_annotate (f : Framework) (table : SymbolTable) :
    (f.annotate here root table).symbols = table.symbols.map (f.markOne here root table) := by
  refine List.map_congr_left fun s _ => ?_
  dsimp only
  unfold markOne
  split
  · rfl
  · split
    · rfl
    · rfl

/-- Frameworks change nothing but metadata. -/
theorem map_bare_annotateAll (active : List Framework) (table : SymbolTable) :
    (annotateAll active here root table).symbols.map Symbol.bare = table.symbols.map Symbol.bare := by
  induction active generalizing table with
  | nil => rfl
  | cons f active ih =>
    rw [annotateAll, List.foldl_cons, ← annotateAll, ih, symbols_annotate, List.map_map]
    exact List.map_congr_left fun s _ => bare_markOne here root f table s

end Framework

namespace Context

/-- The context of some trees: what they hold, with the marks of frameworks, and everything else as given. The references
of `base` are those that come from elsewhere. -/
def overTrees (base : Context) (active : List Framework) (here root : Path) (trees : List (String × Node)) : Context :=
  let held := trees.map fun t => (t.1, Gathered.ofTree t.1 t.2)
  { base with
    table := Framework.annotateAll active here root (Project.tableOf held)
    references := held.flatMap (·.2.references) ++ base.references
    imports := Project.importsOf held }

variable (base : Context) (active : List Framework) (here root : Path) (trees : List (String × Node))

theorem map_bare_overTrees : (base.overTrees active here root trees).table.symbols.map Symbol.bare =
    (trees.flatMap fun t => Collect.symbols t.1 t.2).map Symbol.bare := by
  refine (Framework.map_bare_annotateAll here root active _).trans ?_
  rw [Project.tableOf, SymbolTable.freeze, SymbolTable.ofSymbols, List.flatMap_map]
  rfl

/-- In the table of some trees, every member belongs to a class that is declared there. -/
theorem exists_owner_overTrees {s : Symbol} (mem : s ∈ (base.overTrees active here root trees).table.symbols)
    (member : s.kind.isMember = true) : ∃ o, s.owner = some o ∧
      ∃ k ∈ (base.overTrees active here root trees).table.get o, k.kind.isClassLike = true := by
  have same := base.map_bare_overTrees active here root trees
  have collected : s.bare ∈ (trees.flatMap fun t => Collect.symbols t.1 t.2).map Symbol.bare :=
    same ▸ List.mem_map_of_mem mem
  obtain ⟨u, held, eq⟩ := List.mem_map.1 collected
  obtain ⟨t, given, declared⟩ := List.mem_flatMap.1 held
  have kind : u.kind = s.kind := congrArg (fun s => s.kind) eq
  have owner : u.owner = s.owner := congrArg (fun s => s.owner) eq
  obtain ⟨o, owned, k, first, like, name⟩ := Collect.exists_owner_of_mem_symbols declared (kind ▸ member)
  have kept : k.bare ∈ (base.overTrees active here root trees).table.symbols.map Symbol.bare :=
    same ▸ List.mem_map_of_mem (List.mem_flatMap.2 ⟨t, given, first⟩)
  obtain ⟨k', there, eq'⟩ := List.mem_map.1 kept
  have kind' : k'.kind = k.kind := congrArg (fun s => s.kind) eq'
  have name' : k'.fqn = k.fqn := congrArg (fun s => s.fqn) eq'
  refine ⟨o, owner ▸ owned, k', ?_, kind' ▸ like⟩
  rw [SymbolTable.get_eq_filter, List.mem_filter, name', name, beq_self_eq_true]
  exact ⟨there, rfl⟩

theorem owned_overTrees : (base.overTrees active here root trees).Owned := by
  intro s mem member
  obtain ⟨o, owned, -⟩ := base.exists_owner_overTrees active here root trees mem member
  rw [owned]
  rfl

/-- **No rule fails on collected code.** Over any syntax trees, with any settings, patterns, entry points, packages, marks of
frameworks and further references, every rule gives the list of its findings, and every member that it could ask about has an
owner that the table knows as a class. -/
theorem runRule_overTrees (rule : Rule) :
    (base.overTrees active here root trees).runRule rule.label =
        .ok ((base.overTrees active here root trees).findingsOf rule.label) ∧
      ∀ s ∈ (base.overTrees active here root trees).table.symbols, s.kind.isMember = true → ∃ o, s.owner = some o ∧
        ∃ k ∈ (base.overTrees active here root trees).table.get o, k.kind.isClassLike = true := by
  refine ⟨?_, fun s mem member => base.exists_owner_overTrees active here root trees mem member⟩
  have owned := base.owned_overTrees active here root trees
  generalize base.overTrees active here root trees = c at owned ⊢
  unfold runRule findingsOf
  rw [Rule.ofLabel?_label]
  cases c.severity rule.label with
  | none => rfl
  | some severity => exact Rule.check_eq owned rule

end Context

end DeadCode
