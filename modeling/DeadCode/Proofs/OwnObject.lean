import DeadCode.Proofs.CollectedCode
import DeadCode.Proofs.Inheritance
import DeadCode.Proofs.MemberUse

/-!
# Members asked of the object at hand

The code of a class asks its own object for members by `$this`. That object is still at hand in the arguments of a class
without a name that is made there; only the body of that class is about another object. But the walk enters a class for all
of its node, the arguments with the body. The scope of a node is a function of its place (`scope_of_mem_visits`), so the
class that an access is filed under follows from the nodes between it and its class: that of the object, as long as no
arguments of a class without a name come in between (`currentClass_of_inCodeOf`). A member whose only accesses are such ones
is reported exactly if all of them stand in such arguments (`own_accesses_filed`).
-/

namespace DeadCode
set_option autoImplicit false

namespace Collect

/-- The node and its siblings before it. -/
def Visit.place (v : Visit) : Place := ⟨v.node, v.earlier⟩

/-- The scope at a place, from the places around it. -/
def scopeOfPlaces (file : String) : List Place → Scope
  | [] => {}
  | [_] => {}
  | p :: q :: around =>
    let statements := isStatementList q.node (around.head?.map (·.node))
    let start := scopeBelow q.node (scopeOfPlaces file (q :: around))
    scopeAt statements (p.earlier.reverse.foldl (scopePast file statements) start) p.node

section Scopes

variable (file : String)

mutual

theorem scope_of_mem_visitsOf (around : List Place) (earlier : List Node) :
    (n : Node) → ∀ v ∈ visitsOf file around earlier (scopeOfPlaces file (⟨n, earlier⟩ :: around)) n,
      v.scope = scopeOfPlaces file (v.place :: v.around)
  | .mk i cs => by
    intro v mem
    rw [visitsOf] at mem
    rcases List.mem_cons.1 mem with rfl | mem
    · rfl
    · exact scope_of_mem_visitsOfChildren ⟨.mk i cs, earlier⟩ around [] cs v mem

/-- The invariant of the walk through the children: the scope is the one that the siblings before leave. -/
theorem scope_of_mem_visitsOfChildren (q : Place) (around : List Place) (earlier : List Node) :
    (cs : List Node) →
      let statements := isStatementList q.node (around.head?.map (·.node))
      let start := scopeBelow q.node (scopeOfPlaces file (q :: around))
      ∀ v ∈ visitsOfChildren file (q :: around) statements earlier
          (earlier.reverse.foldl (scopePast file statements) start) cs,
        v.scope = scopeOfPlaces file (v.place :: v.around)
  | [] => by simp [visitsOfChildren]
  | c :: cs => by
    intro statements start v mem
    rw [visitsOfChildren_cons] at mem
    rcases List.mem_append.1 mem with mem | mem
    · exact scope_of_mem_visitsOf (q :: around) earlier c v mem
    · have next := scope_of_mem_visitsOfChildren q around (c :: earlier) cs v
      rw [List.reverse_cons, List.foldl_append] at next
      exact next mem

end

/-- **The scope of a node is a function of its place.** -/
theorem scope_of_mem_visits {root : Node} {v : Visit} (visited : v ∈ visits file root) :
    v.scope = scopeOfPlaces file (v.place :: v.around) :=
  scope_of_mem_visitsOf file [] [] root v visited

end Scopes

/-- The accesses to a member of an object. -/
def objectAccessKinds : List String :=
  ["member_call_expression", "nullsafe_member_call_expression", "member_access_expression",
    "nullsafe_member_access_expression"]

/-- The node asks `$this` for a member. -/
def Visit.AsksOwn (v : Visit) : Prop :=
  v.node.kind ∈ objectAccessKinds ∧ ∃ o, v.node.child? "object" = some o ∧ o.text = "$this"

/-- From a node outwards, the places leave the object at hand alone: no class, namespace or file starts at one of them, and a
class without a name is entered by its arguments only. -/
def SameObject (n : Node) : List Place → Prop
  | [] => True
  | p :: around =>
    p.node.isClassLike = false ∧ p.node.kind ≠ "namespace_definition" ∧ p.node.kind ≠ "program" ∧
      (p.node.isAnonymousClass = true → n.kind = "arguments") ∧ SameObject p.node around

/-- The node stands in the code of a class, with the places between in `inner`, and the object is the same. -/
structure InCodeOf (w v : Visit) (inner : List Place) : Prop where
  around : v.around = inner ++ w.place :: w.around
  same : SameObject v.node inner

/-- Do the places lead through the arguments of a class without a name? -/
def throughArguments (inner : List Place) : Bool := inner.any (·.node.isAnonymousClass)

/-- The class that code is filed under. -/
def filedUnder (w : Visit) (inner : List Place) : String :=
  if throughArguments inner then anonymousClass else w.className

section Objects

variable {file : String} {root : Node} {v w : Visit} {inner : List Place}

/-- Below a node that is no namespace and no named class, the class is that around it or one without a name. -/
theorem currentClass_below_plain {n : Node} (plain : n.isClassLike = false) (space : n.kind ≠ "namespace_definition")
    (s : Scope) :
    (scopeBelow n s).currentClass = if n.isAnonymousClass then some anonymousClass else s.currentClass := by
  rw [scopeBelow, if_neg (by simp [space]), if_neg (by simp [plain])]
  split
  · rfl
  · split
    · rfl
    · rfl

/-- At a place that is no statement of a list, the scope is that below the node around it. -/
theorem scopeOfPlaces_cons_cons {p q : Place} {around : List Place}
    (single : isStatementList q.node (around.head?.map (·.node)) = false) :
    scopeOfPlaces file (p :: q :: around) = scopeBelow q.node (scopeOfPlaces file (q :: around)) := by
  have past (start : Scope) (ns : List Node) : ns.foldl (scopePast file false) start = start := by
    induction ns with
    | nil => rfl
    | cons n ns ih => exact ih
  rw [scopeOfPlaces, single]
  exact past _ _

/-- The class at the places from a node out to its class. -/
theorem currentClass_of_sameObject (visited : w ∈ visits file root) (like : w.node.isClassLike = true) (n : Node)
    (earlier : List Node) (same : SameObject n inner) :
    (scopeOfPlaces file (⟨n, earlier⟩ :: (inner ++ w.place :: w.around))).currentClass = some (filedUnder w inner) := by
  induction inner generalizing n earlier with
  | nil =>
    obtain ⟨parent, below⟩ := scopeBelow_of_isClassLike like
    rw [List.nil_append, scopeOfPlaces_cons_cons (isStatementList_of_isClassLike like _), ← scope_of_mem_visits file visited]
    exact congrArg Scope.currentClass below
  | cons p inner ih =>
    obtain ⟨plain, space, program, -, rest⟩ := same
    -- the node around `p` is the class or a place in between, so no namespace either
    have above : ((inner ++ w.place :: w.around).head?.map (·.node.kind)) ≠ some "namespace_definition" := by
      cases inner with
      | nil =>
        intro kind
        have other := Option.some.inj kind
        revert like
        simp [Node.isClassLike, show w.node.kind = "namespace_definition" from other]
      | cons q inner => exact fun kind => rest.2.1 (Option.some.inj kind)
    have single : isStatementList p.node ((inner ++ w.place :: w.around).head?.map (·.node)) = false := by
      simp only [isStatementList, Option.map_map, Function.comp_def, Bool.or_eq_false_iff, Bool.and_eq_false_iff,
        beq_eq_false_iff_ne]
      exact ⟨program, Or.inr above⟩
    rw [List.cons_append, scopeOfPlaces_cons_cons single, currentClass_below_plain plain space, ih p.node p.earlier rest]
    cases anonymous : p.node.isAnonymousClass with
    | true => simp [filedUnder, throughArguments, anonymous]
    | false => simp [filedUnder, throughArguments, anonymous]

/-- **Code of a class is filed under the class, unless arguments of a class without a name come in between.** -/
theorem currentClass_of_inCodeOf (declared : w ∈ visits file root) (like : w.node.isClassLike = true)
    (visited : v ∈ visits file root) (code : InCodeOf w v inner) :
    v.scope.currentClass = some (filedUnder w inner) := by
  rw [scope_of_mem_visits file visited, code.around]
  exact currentClass_of_sameObject declared like v.node v.earlier code.same

/-- An access by `$this` gives one reference, to a member of the class at hand. -/
theorem referencesAt_of_asksOwn (file : String) (own : v.AsksOwn) :
    ∃ r, referencesAt file v = [r] ∧ r.parent = v.scope.currentClass ∧ r.enclosing = v.scope.currentClass := by
  obtain ⟨kind, o, object, this⟩ := own
  have parent : thisClass v = v.scope.currentClass := by rw [thisClass, object]; simp [this]
  have member (kind : ReferenceKind) : ∃ r, memberReference file v kind (thisClass v) "name" = [r] ∧
      r.parent = v.scope.currentClass ∧ r.enclosing = v.scope.currentClass := by
    rw [parent, memberReference]
    split
    · split
      · exact ⟨_, rfl, rfl, rfl⟩
      · exact ⟨_, rfl, rfl, rfl⟩
    · exact ⟨_, rfl, rfl, rfl⟩
  simp only [objectAccessKinds, List.mem_cons, List.not_mem_nil, or_false] at kind
  unfold referencesAt
  rcases kind with kind | kind | kind | kind
  all_goals
    simp only [kind]
    exact member _

/-- An access in the code of a class is filed like the code. -/
theorem referencesAt_of_inCodeOf (declared : w ∈ visits file root) (like : w.node.isClassLike = true)
    (visited : v ∈ visits file root) (code : InCodeOf w v inner) (own : v.AsksOwn) :
    ∃ r, referencesAt file v = [r] ∧ r.parent = some (filedUnder w inner) ∧ r.enclosing = some (filedUnder w inner) := by
  obtain ⟨r, only, parent, enclosing⟩ := referencesAt_of_asksOwn file own
  have current := currentClass_of_inCodeOf declared like visited code
  exact ⟨r, only, parent.trans current, enclosing.trans current⟩

theorem parent_of_inCodeOf (declared : w ∈ visits file root) (like : w.node.isClassLike = true)
    (visited : v ∈ visits file root) (code : InCodeOf w v inner) (own : v.AsksOwn) {r : Reference}
    (mem : r ∈ referencesAt file v) : r.parent = some (filedUnder w inner) := by
  obtain ⟨r', only, parent, -⟩ := referencesAt_of_inCodeOf declared like visited code own
  rw [only] at mem
  rw [List.mem_singleton.1 mem, parent]

end Objects

end Collect


namespace Rule

/-- The reference reads a member by name, as far as the rule can tell. -/
def ReadsMember (rule : Rule) (m : Symbol) (r : Reference) : Prop :=
  r.kind ∈ rule.accessKinds ∧ r.isDynamic = false ∧ rule.spelling r.name = rule.spelling m.name

/-- The only reads of the member are by `$this`, in the code of the class `w`. -/
def ReadByOwn (rule : Rule) (c : Context) (file : String) (root : Node) (w : Collect.Visit) (m : Symbol) : Prop :=
  ∀ r ∈ c.references, rule.ReadsMember m r → ∃ v ∈ Collect.visits file root, ∃ inner,
    Collect.InCodeOf w v inner ∧ v.AsksOwn ∧ r ∈ Collect.referencesAt file v

end Rule

namespace Context

variable (base : Context) (active : List Framework) (here path : Path) {trees : List (String × Node)} {file : String}
  {root : Node} {w : Collect.Visit}

theorem references_subset_overTrees (given : (file, root) ∈ trees) :
    Collect.references file root ⊆ (base.overTrees active here path trees).references := by
  intro r mem
  exact List.mem_append_left _ (List.mem_flatMap.2 ⟨_, List.mem_map_of_mem given, mem⟩)

/-- An access in the code of a class misses the members of the class exactly if it is filed under the class without a name
and the two are unrelated. -/
theorem misses_own_iff {t : SymbolTable} {r : Reference} {inner : List Collect.Place}
    (parent : r.parent = some (Collect.filedUnder w inner)) :
    (∃ p, r.parent = some p ∧ p ≠ "parent" ∧ t.Unrelated p w.className) ↔
      Collect.throughArguments inner = true ∧ t.Unrelated Collect.anonymousClass w.className := by
  have word : Collect.anonymousClass ≠ "parent" := by decide
  rw [parent, Collect.filedUnder]
  cases Collect.throughArguments inner with
  | true => simp [word]
  | false => simp [SymbolTable.Unrelated]

/-- **Accesses by `$this` in arguments of a class without a name are filed under that class.** In any tree, every access to a
member of `$this` in the code of a class gives one reference, with the class as its target and as the class around it, except
that in arguments of a class without a name it is that class. So in any project with the tree, a rule about members reports
a member of the class that is only read by such accesses if and only if it is eligible and every one of them stands in such
arguments, unless the hierarchy relates the two classes. -/
theorem own_accesses_filed {c : Context} (built : c = base.overTrees active here path trees) (given : (file, root) ∈ trees)
    (declared : w ∈ Collect.visits file root) (like : w.node.isClassLike = true) :
    (∀ v ∈ Collect.visits file root, ∀ inner, Collect.InCodeOf w v inner → v.AsksOwn →
      ∃ r, Collect.referencesAt file v = [r] ∧ r.parent = some (Collect.filedUnder w inner) ∧
        r.enclosing = some (Collect.filedUnder w inner)) ∧
      ∀ (rule : Rule) (m : Symbol) (severity : Severity), rule.memberKind? = some m.kind → m ∈ c.table.symbols →
        m.owner = some w.className → rule.ReadByOwn c file root w m →
        rule.check c severity =
            .ok ((rule.reported c).map fun s => Rule.issueFor rule s (rule.severityFor c severity s)) ∧
          (m ∈ rule.reported c ↔ rule.Eligible c m ∧
            ∀ v ∈ Collect.visits file root, ∀ inner, Collect.InCodeOf w v inner → v.AsksOwn →
              (∃ r ∈ Collect.referencesAt file v, rule.ReadsMember m r) →
              Collect.throughArguments inner = true ∧ c.table.Unrelated Collect.anonymousClass w.className) := by
  refine ⟨fun v visited inner code own => Collect.referencesAt_of_inCodeOf declared like visited code own, ?_⟩
  intro rule m severity about known owned byOwn
  have owners : c.Owned := built ▸ base.owned_overTrees active here path trees
  have seen : Collect.references file root ⊆ c.references := built ▸ base.references_subset_overTrees active here path given
  refine ⟨?_, ?_⟩
  · rw [Rule.check_eq owners, Rule.findings_eq_symbolFindings (Rule.mem_kinds_of_memberKind? about)]
    rfl
  rw [Rule.mem_reported_iff about known, Rule.isUnused_iff_judgesMember about, Rule.judgesMember_iff_eligible about,
    Rule.not_meansMember_iff owned]
  apply and_congr_right
  intro _
  constructor
  · rintro missed v visited inner code own ⟨r, mem, reads⟩
    have parent := Collect.parent_of_inCodeOf declared like visited code own mem
    have held : r ∈ c.references := seen (List.mem_flatMap.2 ⟨v, visited, mem⟩)
    exact (misses_own_iff parent).1 (missed r held reads.1 reads.2.1 reads.2.2)
  · intro each r held kind static name
    obtain ⟨v, visited, inner, code, own, mem⟩ := byOwn r held ⟨kind, static, name⟩
    have parent := Collect.parent_of_inCodeOf declared like visited code own mem
    exact (misses_own_iff parent).2 (each v visited inner code own ⟨r, mem, kind, static, name⟩)

section Samples

/-- The call `$this->secret()`. -/
def secretCall : Node := sampleNode "member_call_expression" "$this->secret()"
  [sampleField "object" "variable_name" "$this" [], sampleField "name" "name" "secret" []]

def secretArgument : Node := sampleNode "argument" "" [secretCall]

def secretArguments : Node := sampleNode "arguments" "" [secretArgument]

/-- A class without a name that gets the result of the call. Its body stands right below the `new` expression. -/
def madeClass : Node := sampleNode "object_creation_expression" "" [secretArguments, sampleNode "declaration_list" "" []]

/-- The method that makes it. -/
def makeMethod : Node := sampleNode "method_declaration" "" [sampleField "name" "name" "make" [], madeClass]

/-- The private method that is called. -/
def secretMethod : Node :=
  sampleNode "method_declaration" "" [sampleNode "visibility_modifier" "private" [], sampleField "name" "name" "secret" []]

def makerBody : Node := sampleField "body" "declaration_list" "" [secretMethod, makeMethod]

/-- The class with both methods. -/
def makerClass : Node := sampleNode "class_declaration" "" [sampleField "name" "name" "Maker" [], makerBody]

def makerFile : Node := sampleNode "program" "" [makerClass]

def makerVisit : Collect.Visit := ⟨makerClass, [], {}, [⟨makerFile, []⟩]⟩

/-- The places between the call and the class. -/
def makerPlaces : List Collect.Place :=
  [⟨secretArgument, []⟩, ⟨secretArguments, []⟩, ⟨madeClass, [sampleField "name" "name" "make" []]⟩,
    ⟨makeMethod, [secretMethod]⟩, ⟨makerBody, [sampleField "name" "name" "Maker" []]⟩]

/-- The call, in the scope that the walk gives it. -/
def secretVisit : Collect.Visit :=
  ⟨secretCall, [], { currentClass := some Collect.anonymousClass }, makerPlaces ++ makerVisit.place :: makerVisit.around⟩

/-- What a file alone holds. -/
def aloneWith (root : Node) : Context := ({} : Context).overTrees [] {} {} [("a.php", root)]

def secretSymbol : Symbol :=
  { kind := .method, name := "secret", file := "a.php", startLine := 1, endLine := 1, visibility := some "private"
    owner := some "Maker" }

theorem own_accesses_filed_maker :
    makerVisit ∈ Collect.visits "a.php" makerFile ∧ makerVisit.node.isClassLike = true ∧
      secretVisit ∈ Collect.visits "a.php" makerFile ∧ Collect.InCodeOf makerVisit secretVisit makerPlaces ∧
      secretVisit.AsksOwn ∧ Rule.methods.ReadByOwn (aloneWith makerFile) "a.php" makerFile makerVisit secretSymbol ∧
      (∃ r, Collect.referencesAt "a.php" secretVisit = [r] ∧ r.parent = some "class@anonymous") ∧
      secretSymbol ∈ Rule.methods.reported (aloneWith makerFile) := by
  have declared : makerVisit ∈ Collect.visits "a.php" makerFile :=
    List.mem_of_getElem? (show (Collect.visits "a.php" makerFile)[1]? = some makerVisit from rfl)
  have like : makerVisit.node.isClassLike = true := by decide +kernel
  have calls (v : Collect.Visit) : v ∈ Collect.visits "a.php" makerFile ∧ v.node.kind ∈ Collect.objectAccessKinds ↔
      v = secretVisit := by
    have only : (Collect.visits "a.php" makerFile).filter (fun v => v.node.kind ∈ Collect.objectAccessKinds) =
      [secretVisit] := rfl
    rw [← List.mem_singleton, ← only, List.mem_filter, decide_eq_true_iff]
  have visited : secretVisit ∈ Collect.visits "a.php" makerFile := ((calls _).2 rfl).1
  have code : Collect.InCodeOf makerVisit secretVisit makerPlaces := by
    refine ⟨rfl, ?_⟩
    simp only [Collect.SameObject, makerPlaces]
    decide +kernel
  have own : secretVisit.AsksOwn := ⟨by decide +kernel, _, rfl, rfl⟩
  have all : (aloneWith makerFile).references = Collect.referencesAt "a.php" secretVisit := by decide +kernel
  have byOwn : Rule.methods.ReadByOwn (aloneWith makerFile) "a.php" makerFile makerVisit secretSymbol :=
    fun r held _ => ⟨secretVisit, visited, makerPlaces, code, own, all ▸ held⟩
  have known : secretSymbol ∈ (aloneWith makerFile).table.symbols :=
    List.mem_of_getElem? (show (aloneWith makerFile).table.symbols[1]? = some secretSymbol from rfl)
  obtain ⟨filed, judged⟩ := own_accesses_filed {} [] {} {} (c := aloneWith makerFile) rfl List.mem_cons_self declared like
  obtain ⟨r, only, parent, -⟩ := filed secretVisit visited makerPlaces code own
  refine ⟨declared, like, visited, code, own, byOwn, ⟨r, only, parent⟩, ?_⟩
  refine (judged .methods secretSymbol .warning rfl known rfl byOwn).2.2 ⟨?_, ?_⟩
  · exact ⟨Or.inl rfl, by decide +kernel, rfl, by decide +kernel, by decide +kernel⟩
  · intro v mem inner inside asks _
    obtain rfl := (calls v).1 ⟨mem, asks.1⟩
    obtain rfl : makerPlaces = inner := List.append_cancel_right inside.around
    have edges : (aloneWith makerFile).table.edges = [] := by decide +kernel
    have alone (x y : String) : ¬Relation.TransGen (aloneWith makerFile).table.BuildsOn x y := by
      intro path
      obtain ⟨z, -, last⟩ := Relation.TransGen.tail'_iff.1 path
      simpa [edges] using SymbolTable.mem_edges_iff_buildsOn.2 last
    exact ⟨by decide +kernel, by decide +kernel, alone _ _, alone _ _⟩

/-- What the object asks of itself: a call or a property. -/
def ownAccess (kind name : String) : Node :=
  sampleNode kind "" [sampleField "object" "variable_name" "$this" [], sampleField "name" "name" name []]

/-- A class with a private property `p` and a private method `f`. Another method gives both to a class without a name. -/
def giverFile : Node :=
  let hidden := sampleNode "visibility_modifier" "private" []
  let given := sampleNode "arguments" "" [sampleNode "argument" "" [ownAccess "member_call_expression" "f"],
    sampleNode "argument" "" [ownAccess "member_access_expression" "p"]]
  let made := sampleNode "object_creation_expression" ""
    [sampleNode "anonymous_class" "" [given, sampleField "body" "declaration_list" "" []]]
  sampleNode "program" "" [sampleNode "class_declaration" "" [sampleField "name" "name" "C" [],
    sampleField "body" "declaration_list" "" [
      sampleNode "property_declaration" "" [hidden,
        sampleNode "property_element" "" [sampleField "name" "variable_name" "$p" [sampleNode "name" "p" []]]],
      sampleNode "method_declaration" "" [hidden, sampleField "name" "name" "f" []],
      sampleNode "method_declaration" "" [sampleField "name" "name" "g" [],
        sampleField "body" "compound_statement" "" [made]]]]]

/-- Private members that are used in arguments of a class without a name, and reported all the same. -/
theorem own_members_reported :
    (Rule.methods.reported (aloneWith giverFile)).map (·.displayName) = ["C::f"] ∧
      (Rule.properties.reported (aloneWith giverFile)).map (·.displayName) = ["C::$p"] := by
  decide +kernel

end Samples

end Context

end DeadCode
