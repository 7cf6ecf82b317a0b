import DeadCode.Proofs.Assoc
import DeadCode.Proofs.Lists
import DeadCode.Table

/-!
# What the index of a table holds

`SymbolIndex.Holds i ss` says what each of the four dictionaries and the hierarchy of an index tell of the symbols `ss`: a
dictionary has under a key exactly the symbols with that key, in the order of their insertion, and a graph has the nodes and
edges of all class-like symbols, each once. Entering a symbol keeps this (`SymbolIndex.Holds.add`), so the index of every
table holds its symbols (`SymbolTable.holds`). From this each look-up is read as a filter of the list of symbols.
-/

namespace DeadCode
set_option autoImplicit false

namespace Groups

theorem foldl_length {κ : Type} (m : Groups κ) (n : Nat) :
    m.foldl (fun n g => n + g.2.length) n = n + (m.flatMap (·.2)).length := by
  induction m generalizing n with
  | nil => rfl
  | cons g m ih => rw [List.foldl_cons, ih, List.flatMap_cons, List.length_append, Nat.add_assoc]

variable {κ : Type} [BEq κ] [LawfulBEq κ]

theorem under_push_self (m : Groups κ) (k : κ) (s : Symbol) : (m.push k s).under k = m.under k ++ [s] := by
  rw [under, push, Assoc.update, Assoc.get?_set_self]
  rfl

theorem under_push_of_ne (m : Groups κ) {k k' : κ} (other : k' ≠ k) (s : Symbol) : (m.push k s).under k' = m.under k' := by
  rw [under, push, Assoc.update, Assoc.get?_set_of_ne _ _ other, under]

theorem keys_push (m : Groups κ) (k : κ) (s : Symbol) :
    Assoc.keys (m.push k s) = Assoc.keys m ++ ([k].removeAll (Assoc.keys m)).eraseDups := by
  rw [push, Assoc.update]
  by_cases old : k ∈ Assoc.keys m
  · rw [Assoc.keys_set_of_mem _ old]
    simp [List.removeAll, old]
  · have new : ([k].removeAll (Assoc.keys m)).eraseDups = [k] := by simp [List.removeAll, old, List.eraseDups_cons]
    rw [Assoc.set_of_not_mem _ old, new, Assoc.keys, List.map_append]
    rfl

/-- Under each key stand the symbols that have it, in the order of the list. -/
structure Holds (m : Groups κ) (key : Symbol → Option κ) (ss : List Symbol) : Prop where
  under : ∀ k, m.under k = ss.filter (key · == some k)
  keys : Assoc.keys m = (ss.filterMap key).eraseDups

variable {m : Groups κ} {key : Symbol → Option κ} {ss : List Symbol} {s : Symbol}

theorem Holds.push (holds : m.Holds key ss) {k : κ} (own : key s = some k) : (m.push k s).Holds key (ss ++ [s]) := by
  refine ⟨fun k' => ?_, ?_⟩
  · rw [List.filter_append, ← holds.under]
    by_cases eq : k' = k
    · rw [eq, under_push_self]
      simp [own]
    · rw [under_push_of_ne m eq]
      simp [own, Ne.symm eq]
  · have same : [k].removeAll (Assoc.keys m) = [k].removeAll (ss.filterMap key) := by
      simp only [List.removeAll, holds.keys, List.elem_eq_mem, List.mem_eraseDups]
    rw [keys_push, same, holds.keys, List.filterMap_append, List.eraseDups_append]
    simp [own]

omit [LawfulBEq κ] in
theorem Holds.skip (holds : m.Holds key ss) (none : key s = none) : m.Holds key (ss ++ [s]) := by
  refine ⟨fun k => ?_, ?_⟩
  · rw [holds.under, List.filter_append]
    simp [none]
  · rw [holds.keys, List.filterMap_append]
    simp [none]

theorem Holds.nodup_keys (holds : m.Holds key ss) : (Assoc.keys m).Nodup := holds.keys ▸ nodup_eraseDups _

/-- All groups one after the other are the groups of all keys. -/
theorem flatMap_snd_eq (distinct : (Assoc.keys m).Nodup) : m.flatMap (·.2) = (Assoc.keys m).flatMap m.under := by
  rw [Assoc.keys, List.flatMap_map]
  refine List.flatMap_congr fun p mem => ?_
  rw [under, Assoc.get?_of_mem distinct mem]
  rfl

end Groups

namespace NameGraph

variable {g : NameGraph}

theorem mem_nodes_addNode {x y : String} : y ∈ (g.addNode x).nodes ↔ y ∈ g.nodes ∨ y = x := by
  rw [addNode]
  split
  · next old =>
    refine (or_iff_left_of_imp ?_).symm
    rintro rfl
    simpa using old
  · simp

theorem edges_addNode (x : String) : (g.addNode x).edges = g.edges := by
  rw [addNode]
  split
  · rfl
  · rfl

theorem nodes_connect (e : String × String) : (g.connect e).nodes = g.nodes := by
  rw [connect]
  split
  · rfl
  · rfl

theorem mem_edges_connect {d e : String × String} : d ∈ (g.connect e).edges ↔ d ∈ g.edges ∨ d = e := by
  rw [connect]
  split
  · next old =>
    refine (or_iff_left_of_imp ?_).symm
    rintro rfl
    simpa using old
  · simp

theorem mem_nodes_addEdge {x y z : String} : z ∈ (g.addEdge x y).nodes ↔ z ∈ g.nodes ∨ z = x ∨ z = y := by
  rw [addEdge, nodes_connect, mem_nodes_addNode, mem_nodes_addNode, or_assoc]

theorem mem_edges_addEdge {x y : String} {e : String × String} : e ∈ (g.addEdge x y).edges ↔ e ∈ g.edges ∨ e = (x, y) := by
  rw [addEdge, mem_edges_connect, edges_addNode, edges_addNode]

/-- Nothing stands in the graph twice. -/
def Simple (g : NameGraph) : Prop := g.nodes.Nodup ∧ g.edges.Nodup

theorem Simple.addNode (simple : g.Simple) (x : String) : (g.addNode x).Simple := by
  rw [NameGraph.addNode]
  split
  · exact simple
  · next new =>
    refine ⟨List.nodup_append.2 ⟨simple.1, List.nodup_singleton x, ?_⟩, simple.2⟩
    rintro a old b last rfl
    rw [List.mem_singleton.1 last] at old
    exact new (by simpa using old)

theorem Simple.connect (simple : g.Simple) (e : String × String) : (g.connect e).Simple := by
  rw [NameGraph.connect]
  split
  · exact simple
  · next new =>
    refine ⟨simple.1, List.nodup_append.2 ⟨simple.2, List.nodup_singleton e, ?_⟩⟩
    rintro a old b last rfl
    rw [List.mem_singleton.1 last] at old
    exact new (by simpa using old)

theorem Simple.addEdge (simple : g.Simple) (x y : String) : (g.addEdge x y).Simple :=
  ((simple.addNode x).addNode y).connect (x, y)

section Edges

variable {x : String} {ps : List String}

/-- The graph after edges from one node. -/
theorem foldl_addEdge (simple : g.Simple) (known : x ∈ g.nodes) :
    let g' := ps.foldl (fun g p => g.addEdge x (Text.lower p)) g
    g'.Simple ∧ (∀ z, z ∈ g'.nodes ↔ z ∈ g.nodes ∨ ∃ p ∈ ps, Text.lower p = z) ∧
      ∀ e, e ∈ g'.edges ↔ e ∈ g.edges ∨ ∃ p ∈ ps, (x, Text.lower p) = e := by
  induction ps generalizing g with
  | nil => simp [simple]
  | cons p ps ih =>
    obtain ⟨simple', nodes, edges⟩ := ih (simple.addEdge x (Text.lower p)) (mem_nodes_addEdge.2 (Or.inl known))
    refine ⟨simple', fun z => ?_, fun e => ?_⟩
    · rw [List.foldl_cons, nodes, mem_nodes_addEdge, List.exists_mem_cons_iff, eq_comm (a := z) (b := Text.lower p)]
      refine ⟨?_, fun h => ?_⟩
      · rintro ((old | rfl | new) | later)
        · exact Or.inl old
        · exact Or.inl known
        · exact Or.inr (Or.inl new)
        · exact Or.inr (Or.inr later)
      · rcases h with old | new | later
        · exact Or.inl (Or.inl old)
        · exact Or.inl (Or.inr (Or.inr new))
        · exact Or.inr later
    · rw [List.foldl_cons, edges, mem_edges_addEdge, List.exists_mem_cons_iff, eq_comm (a := e), or_assoc]

end Edges

/-- A symbol puts the name into the hierarchy: it is a class, and is called so or builds on it. -/
def Names (s : Symbol) (x : String) : Prop :=
  s.kind.isClassLike = true ∧ (Text.lower s.fqn = x ∨ ∃ p ∈ s.supertypes, Text.lower p = x)

/-- A symbol puts the edge into the hierarchy: it is a class of the first name that builds on the second one. -/
def Links (s : Symbol) (x y : String) : Prop :=
  s.kind.isClassLike = true ∧ Text.lower s.fqn = x ∧ ∃ p ∈ s.supertypes, Text.lower p = y

theorem simple_enter (simple : g.Simple) (s : Symbol) : (g.enter s).Simple := by
  rw [enter]
  split
  · exact (foldl_addEdge (simple.addNode _) (mem_nodes_addNode.2 (Or.inr rfl))).1
  · exact simple

theorem mem_nodes_enter (simple : g.Simple) {s : Symbol} {x : String} : x ∈ (g.enter s).nodes ↔ x ∈ g.nodes ∨ Names s x := by
  rw [enter, Names]
  split
  · next like =>
    rw [(foldl_addEdge (simple.addNode _) (mem_nodes_addNode.2 (Or.inr rfl))).2.1, mem_nodes_addNode, or_assoc,
      eq_comm (a := x)]
    simp only [like, true_and]
  · next other => simp [other]

theorem mem_edges_enter (simple : g.Simple) {s : Symbol} {x y : String} :
    (x, y) ∈ (g.enter s).edges ↔ (x, y) ∈ g.edges ∨ Links s x y := by
  rw [enter, Links]
  split
  · next like =>
    rw [(foldl_addEdge (simple.addNode _) (mem_nodes_addNode.2 (Or.inr rfl))).2.2, edges_addNode]
    simp only [like, true_and, Prod.mk.injEq]
    exact or_congr_right ⟨fun ⟨p, above, name, parent⟩ => ⟨name, p, above, parent⟩, fun ⟨name, p, above, parent⟩ =>
      ⟨p, above, name, parent⟩⟩
  · next other => simp [other]

end NameGraph

namespace SymbolIndex

/-- Each part of the index tells of these symbols and of no other. -/
structure Holds (i : SymbolIndex) (ss : List Symbol) : Prop where
  byName : i.byName.Holds (fun s => some s.fqn) ss
  byKind : i.byKind.Holds (fun s => some s.kind) ss
  byFile : i.byFile.Holds (fun s => some s.file) ss
  byOwner : i.byOwner.Holds (fun s => s.owner?.map Text.lower) ss
  simple : i.hierarchy.Simple
  nodes : ∀ x, x ∈ i.hierarchy.nodes ↔ ∃ s ∈ ss, NameGraph.Names s x
  edges : ∀ x y, (x, y) ∈ i.hierarchy.edges ↔ ∃ s ∈ ss, NameGraph.Links s x y

theorem holds_nil : ({} : SymbolIndex).Holds [] where
  byName := ⟨fun _ => rfl, rfl⟩
  byKind := ⟨fun _ => rfl, rfl⟩
  byFile := ⟨fun _ => rfl, rfl⟩
  byOwner := ⟨fun _ => rfl, rfl⟩
  simple := ⟨List.nodup_nil, List.nodup_nil⟩
  nodes := by simp
  edges := by simp

/-- Entering a symbol adds it, and nothing else, to every part. -/
theorem Holds.add {i : SymbolIndex} {ss : List Symbol} (holds : i.Holds ss) (s : Symbol) : (i.add s).Holds (ss ++ [s]) where
  byName := holds.byName.push rfl
  byKind := holds.byKind.push rfl
  byFile := holds.byFile.push rfl
  byOwner := by
    rw [SymbolIndex.add]
    dsimp only
    split
    · next o own => exact holds.byOwner.push (by rw [own]; rfl)
    · next none => exact holds.byOwner.skip (by rw [none]; rfl)
  simple := NameGraph.simple_enter holds.simple s
  nodes := by
    intro x
    rw [SymbolIndex.add, NameGraph.mem_nodes_enter holds.simple, holds.nodes]
    simp [or_and_right, exists_or]
  edges := by
    intro x y
    rw [SymbolIndex.add, NameGraph.mem_edges_enter holds.simple, holds.edges]
    simp [or_and_right, exists_or]

theorem holds_foldl_add (ss : List Symbol) : (ss.foldl SymbolIndex.add {}).Holds ss := by
  induction ss using List.reverseRecOn with
  | nil => exact holds_nil
  | append_singleton ss s ih =>
    rw [List.foldl_append]
    exact ih.add s

theorem hierarchy_foldl_add (ss : List Symbol) (i : SymbolIndex) :
    (ss.foldl SymbolIndex.add i).hierarchy = ss.foldl NameGraph.enter i.hierarchy := by
  induction ss generalizing i with
  | nil => rfl
  | cons s ss ih => exact ih (i.add s)

end SymbolIndex

namespace SymbolTable

/-- The index of a table holds its symbols. -/
theorem holds (t : SymbolTable) : t.index.Holds t.symbols := by
  rw [t.indexed]
  exact SymbolIndex.holds_foldl_add t.symbols

/-- The symbols and whether it is frozen determine a table. -/
theorem ext_symbols {t t' : SymbolTable} (symbols : t.symbols = t'.symbols) (frozen : t.frozen = t'.frozen) : t = t' := by
  obtain ⟨index, _, ss, indexed⟩ := t
  obtain ⟨index', _, ss', indexed'⟩ := t'
  obtain rfl : ss = ss' := symbols
  obtain rfl : index = index' := indexed.trans indexed'.symm
  obtain rfl := frozen
  rfl

variable (t : SymbolTable)

theorem get_eq_filter (fqn : String) : t.get fqn = t.symbols.filter (·.fqn == fqn) := t.holds.byName.under fqn

theorem inFile_eq_filter (file : String) : t.inFile file = t.symbols.filter (·.file == file) := t.holds.byFile.under file

theorem ofKinds_eq_flatMap (kinds : List SymbolKind) :
    t.ofKinds kinds = kinds.flatMap fun k => t.symbols.filter (·.kind == k) :=
  List.flatMap_congr fun k _ => t.holds.byKind.under k

theorem membersOf_eq_filter (owner : String) :
    t.membersOf owner = t.symbols.filter fun s => (s.owner?.map Text.lower) == some (Text.lower owner) :=
  t.holds.byOwner.under (Text.lower owner)

theorem names_eq : t.names = (t.symbols.map Symbol.fqn).eraseDups := by
  rw [names, t.holds.byName.keys, ← List.filterMap_eq_map]
  rfl

theorem toList_eq : t.toList = t.names.flatMap t.get := Groups.flatMap_snd_eq t.holds.byName.nodup_keys

theorem size_eq : t.size = t.toList.length := by
  rw [size, Groups.foldl_length, Nat.zero_add, toList]

theorem files_eq : t.files = Text.sortUnique (t.symbols.map (·.file)) := by
  rw [files, t.holds.byFile.keys, ← List.filterMap_eq_map, Text.sortUnique]
  rfl

theorem hierarchy_eq : t.index.hierarchy = t.symbols.foldl NameGraph.enter {} := by
  rw [t.indexed, SymbolIndex.hierarchy_foldl_add]

end SymbolTable
end DeadCode
