import DeadCode.Record.Symbol

/-!
# The symbol table

All symbols of a run. A table keeps them in four dictionaries, by name, kind, file and owner, and in the graph of the class
hierarchy, which has an edge from each class-like symbol to everything that it extends, implements or uses. Every look-up reads
one of the five. Class names are compared in lower case. `ancestors` and `descendants` are the names reachable along the edges
or against them, without the class itself.

A table also carries the list of its symbols in the order of their insertion, with the proof that the dictionaries and the graph
are what they become by entering these symbols one after the other. So no table is out of step with itself.
-/

namespace DeadCode
set_option autoImplicit false

/-- A directed graph of names, with its nodes and edges in the order of their insertion. -/
structure NameGraph where
  nodes : List String := []
  edges : List (String × String) := []
  deriving DecidableEq, Inhabited

namespace NameGraph

/-- The graph with a node, which may be there. -/
def addNode (g : NameGraph) (x : String) : NameGraph :=
  if g.nodes.contains x then g else { g with nodes := g.nodes ++ [x] }

/-- The graph with an edge between nodes of it, which may be there. -/
def connect (g : NameGraph) (e : String × String) : NameGraph :=
  if g.edges.contains e then g else { g with edges := g.edges ++ [e] }

/-- The graph with an edge and both of its ends. -/
def addEdge (g : NameGraph) (x y : String) : NameGraph := ((g.addNode x).addNode y).connect (x, y)

/-- The hierarchy with a symbol, if it is a class or the like. -/
def enter (g : NameGraph) (s : Symbol) : NameGraph :=
  if s.kind.isClassLike then
    let x := Text.lower s.fqn
    s.supertypes.foldl (fun g p => g.addEdge x (Text.lower p)) (g.addNode x)
  else g

end NameGraph

/-- Symbols under keys, in the order of their insertion. -/
abbrev Groups (κ : Type) := List (κ × List Symbol)

namespace Groups

variable {κ : Type} [BEq κ]

/-- The groups with one more symbol under a key. -/
def push (m : Groups κ) (k : κ) (s : Symbol) : Groups κ := Assoc.update m k [] (· ++ [s])

/-- The symbols under a key. -/
def under (m : Groups κ) (k : κ) : List Symbol := (Assoc.get? m k).getD []

/-- The groups with `f` applied to each symbol. -/
def mapSymbols (f : Symbol → Symbol) (m : Groups κ) : Groups κ := m.map fun p => (p.1, p.2.map f)

theorem get?_mapSymbols (f : Symbol → Symbol) (m : Groups κ) (k : κ) :
    Assoc.get? (m.mapSymbols f) k = (Assoc.get? m k).map (List.map f) := by
  induction m with
  | nil => rfl
  | cons p m ih =>
    rw [mapSymbols, List.map_cons, Assoc.get?, Assoc.get?, ← mapSymbols, ih]
    split
    · rfl
    · rfl

theorem mapSymbols_set (f : Symbol → Symbol) (m : Groups κ) (k : κ) (ss : List Symbol) :
    Groups.mapSymbols f (Assoc.set m k ss) = Assoc.set (m.mapSymbols f) k (ss.map f) := by
  induction m with
  | nil => rfl
  | cons p m ih =>
    rw [mapSymbols, mapSymbols, List.map_cons, Assoc.set, Assoc.set, ← mapSymbols, ← mapSymbols, ← ih]
    split
    · rfl
    · rfl

theorem mapSymbols_push (f : Symbol → Symbol) (m : Groups κ) (k : κ) (s : Symbol) :
    (m.push k s).mapSymbols f = (m.mapSymbols f).push k (f s) := by
  rw [push, Assoc.update, mapSymbols_set, push, Assoc.update, get?_mapSymbols]
  cases Assoc.get? m k with
  | none => rfl
  | some ss => simp

end Groups

/-- What a table looks into: the symbols by full name, by kind, by file and by owner, and the class hierarchy. -/
structure SymbolIndex where
  byName : Groups String := []
  byKind : Groups SymbolKind := []
  byFile : Groups String := []
  byOwner : Groups String := []
  hierarchy : NameGraph := {}
  deriving Inhabited

namespace SymbolIndex

/-- The index with one more symbol. A symbol without an owner is under none. -/
def add (i : SymbolIndex) (s : Symbol) : SymbolIndex where
  byName := i.byName.push s.fqn s
  byKind := i.byKind.push s.kind s
  byFile := i.byFile.push s.file s
  byOwner := match s.owner? with
    | some owner => i.byOwner.push (Text.lower owner) s
    | none => i.byOwner
  hierarchy := i.hierarchy.enter s

/-- The index after a change of the metadata of each symbol, which all its parts see. -/
def mapMetadata (f : Symbol → List (String × Json)) (i : SymbolIndex) : SymbolIndex :=
  let g := fun s : Symbol => { s with metadata := f s }
  { byName := i.byName.mapSymbols g, byKind := i.byKind.mapSymbols g, byFile := i.byFile.mapSymbols g, byOwner := i.byOwner.mapSymbols g
    hierarchy := i.hierarchy }

/-- No key and no edge depends on metadata. -/
theorem mapMetadata_add (f : Symbol → List (String × Json)) (i : SymbolIndex) (s : Symbol) :
    (i.add s).mapMetadata f = (i.mapMetadata f).add { s with metadata := f s } := by
  simp only [add, mapMetadata, Groups.mapSymbols_push]
  congr 1
  have owner : ({ s with metadata := f s } : Symbol).owner? = s.owner? := rfl
  rw [owner]
  cases s.owner? with
  | none => rfl
  | some o => exact Groups.mapSymbols_push _ _ _ _

theorem mapMetadata_foldl_add (f : Symbol → List (String × Json)) (ss : List Symbol) (i : SymbolIndex) :
    (ss.foldl add i).mapMetadata f = (ss.map fun s => { s with metadata := f s }).foldl add (i.mapMetadata f) := by
  induction ss generalizing i with
  | nil => rfl
  | cons s ss ih => rw [List.foldl_cons, ih, mapMetadata_add, List.map_cons, List.foldl_cons]

end SymbolIndex

/-- A symbol table. A frozen one takes no more symbols. `symbols` is what it stands for, in the order of insertion. -/
structure SymbolTable where
  index : SymbolIndex := {}
  frozen : Bool := false
  symbols : List Symbol := []
  indexed : index = symbols.foldl SymbolIndex.add {} := by rfl

/-- The table without symbols. -/
def SymbolTable.empty : SymbolTable := {}

instance : Inhabited SymbolTable := ⟨.empty⟩

/-- A symbol was added to a frozen table. -/
structure FrozenError where
  id : String
  deriving Repr

/-- The wording of the error. -/
def FrozenError.message (e : FrozenError) : String := "Cannot add " ++ e.id ++ ": symbol table is frozen"

namespace SymbolTable

/-- The table with one more symbol. -/
def add (t : SymbolTable) (s : Symbol) : Except FrozenError SymbolTable :=
  if t.frozen then .error ⟨s.id⟩
  else .ok { t with
    index := t.index.add s, symbols := t.symbols ++ [s]
    indexed := by rw [List.foldl_append, ← t.indexed]; rfl }

/-- The table with more symbols, one after the other. -/
def addAll (t : SymbolTable) (ss : List Symbol) : Except FrozenError SymbolTable := ss.foldlM add t

/-- A table of the given symbols. -/
def ofSymbols (ss : List Symbol) : SymbolTable := { index := ss.foldl SymbolIndex.add {}, symbols := ss }

/-- The table, closed for new symbols. -/
def freeze (t : SymbolTable) : SymbolTable := { t with frozen := true }

/-- The table after a change of the metadata of its symbols, which stays possible once it is frozen. -/
def mapMetadata (t : SymbolTable) (f : Symbol → List (String × Json)) : SymbolTable :=
  { t with
    index := t.index.mapMetadata f, symbols := t.symbols.map fun s => { s with metadata := f s }
    indexed := by rw [t.indexed, SymbolIndex.mapMetadata_foldl_add]; rfl }

/-- Number of symbols. -/
def size (t : SymbolTable) : Nat := t.index.byName.foldl (fun n g => n + g.2.length) 0

/-- Full names in the order of their first insertion. -/
def names (t : SymbolTable) : List String := Assoc.keys t.index.byName

/-- Symbols with this full name. -/
def get (t : SymbolTable) (fqn : String) : List Symbol := t.index.byName.under fqn

/-- Symbols grouped by full name. -/
def toList (t : SymbolTable) : List Symbol := t.index.byName.flatMap (·.2)

/-- Symbols of the kinds, kind by kind. -/
def ofKinds (t : SymbolTable) (kinds : List SymbolKind) : List Symbol := kinds.flatMap t.index.byKind.under

/-- Classes, interfaces, traits and enums. -/
def classLikes (t : SymbolTable) : List Symbol :=
  t.ofKinds [.classType, .interfaceType, .traitType, .enumType]

/-- Members of a class. -/
def membersOf (t : SymbolTable) (owner : String) : List Symbol := t.index.byOwner.under (Text.lower owner)

/-- Symbols declared in a file. -/
def inFile (t : SymbolTable) (file : String) : List Symbol := t.index.byFile.under file

/-- Files with symbols, in order. -/
def files (t : SymbolTable) : List String := Text.sortStrings (Assoc.keys t.index.byFile)

/-- Edges of the class hierarchy, each once. -/
def edges (t : SymbolTable) : List (String × String) := t.index.hierarchy.edges

/-- The names that `todo` reaches along the edges and that are not seen yet, added to those seen. Each round either
adds a name or ends the search of one, so as many rounds are enough as there are edges and names to start from. -/
def reach (edges : List (String × String)) : Nat → List String → List String → List String
  | 0, _, seen => seen
  | _ + 1, [], seen => seen
  | n + 1, x :: todo, seen =>
    let next := ((edges.filter (·.1 == x)).map (·.2)).filter fun y => !seen.contains y
    let fresh := next.eraseDups
    reach edges n (fresh ++ todo) (fresh ++ seen)

/-- Names reachable from `x` by one edge or more, without `x`. -/
def reachable (edges : List (String × String)) (x : String) : List String :=
  (reach edges (edges.length + 1) [x] [x]).filter (· != x)

/-- Names above a class. One that is not in the hierarchy has none. -/
def ancestors (t : SymbolTable) (fqn : String) : List String :=
  if t.index.hierarchy.nodes.contains (Text.lower fqn) then reachable t.edges (Text.lower fqn) else []

/-- Names below a class. One that is not in the hierarchy has none. -/
def descendants (t : SymbolTable) (fqn : String) : List String :=
  if t.index.hierarchy.nodes.contains (Text.lower fqn) then reachable (t.edges.map fun e => (e.2, e.1)) (Text.lower fqn)
  else []

/-- A class with everything above and below it. -/
def family (t : SymbolTable) (fqn : String) : List String :=
  (Text.lower fqn :: t.ancestors fqn ++ t.descendants fqn).eraseDups

end SymbolTable
end DeadCode
