import DeadCode.Proofs.ClassIdentity
import DeadCode.Proofs.ClassUses
import Mathlib.Data.List.Forall2

/-!
# Sections on their own

A file can be cut in two where a namespace starts. The walk of the whole file is the walk of the one part and then that of
the other, but for the file around the statements and the siblings before them; visits that differ in no more than that are
`Alike`. So the two parts on their own give all that the whole file gives (`collected_append`). The classes that the first
part ignores are still on record in the second, but the members of a class only ask for the class that they stand in, which
has been met again by then. A tag in a comment would reach past a namespace statement only if that were no named node.
-/

namespace DeadCode.Collect
set_option autoImplicit false

/-- Is the statement a namespace with a body? -/
def isBlock (n : Node) : Bool := n.kind == "namespace_definition" && (n.child? "body").isSome

/-- A place where the statements of a file can be cut: before a namespace statement, or where only blocks follow. -/
inductive SectionCut : List Node → Prop
  | statement {n : Node} {rest : List Node} (starts : startsSection n = true) : SectionCut (n :: rest)
  | blocks {second : List Node} (blocks : ∀ n ∈ second, isBlock n = true) : SectionCut second

/-- No comment of the first part counts for a declaration of the second: the namespace statement between them is seen, or
there is no tag to be found above it. -/
def Shielded (first second : List Node) : Prop :=
  ∀ n, second.head? = some n → startsSection n = true → n.info.named = true ∨ ignoreAbove first.reverse = {}

theorem kind_of_startsSection {n : Node} (starts : startsSection n = true) : n.kind = "namespace_definition" := by
  rw [startsSection, Bool.and_eq_true, beq_iff_eq] at starts
  exact starts.1

theorem kind_of_isBlock {n : Node} (block : isBlock n = true) : n.kind = "namespace_definition" := by
  rw [isBlock, Bool.and_eq_true, beq_iff_eq] at block
  exact block.1

section Comments

/-- The tag of the comments right before a node. -/
def tagAbove (earlier : List Node) : Option (Option String) :=
  ((earlier.filter (·.info.named)).takeWhile (·.kind == "comment")).findSome? fun c => findTag c.text.toList

theorem tagAbove_cons (n : Node) (earlier : List Node) :
    tagAbove (n :: earlier) =
      if n.info.named then if n.kind == "comment" then (findTag n.text.toList).or (tagAbove earlier) else none
      else tagAbove earlier := by
  unfold tagAbove
  rw [List.filter_cons]
  split
  · rw [List.takeWhile_cons]
    split
    · rw [List.findSome?_cons]
      cases findTag n.text.toList with
      | none => rfl
      | some rule => rfl
    · rfl
  · rfl

theorem ignoreAbove_eq (earlier : List Node) :
    ignoreAbove earlier = ((tagAbove earlier).map fun rule => ⟨true, rule⟩).getD {} := by
  unfold ignoreAbove tagAbove
  dsimp only
  split
  · next found => rw [found]; rfl
  · next found => rw [found]; rfl

theorem ignoreAbove_eq_empty_iff {earlier : List Node} : ignoreAbove earlier = {} ↔ tagAbove earlier = none := by
  rw [ignoreAbove_eq]
  cases tagAbove earlier with
  | none => simp
  | some rule => simp

/-- Siblings further up count for nothing if they have no tag to give. -/
theorem ignoreAbove_append {base : List Node} (free : ignoreAbove base = {}) (near : List Node) :
    ignoreAbove (near ++ base) = ignoreAbove near := by
  have same : tagAbove (near ++ base) = tagAbove near := by
    induction near with
    | nil => exact ignoreAbove_eq_empty_iff.1 free
    | cons n near ih => rw [List.cons_append, tagAbove_cons, tagAbove_cons, ih]
  rw [ignoreAbove_eq, ignoreAbove_eq, same]

/-- Nothing above a namespace statement counts below it. -/
theorem ignoreAbove_cons {n : Node} {above : List Node} (starts : startsSection n = true)
    (shield : n.info.named = true ∨ ignoreAbove above = {}) : ignoreAbove (n :: above) = {} := by
  have kind := kind_of_startsSection starts
  rw [ignoreAbove_eq_empty_iff, tagAbove_cons]
  rcases shield with named | free
  · simp [named, kind]
  · simp [kind, ignoreAbove_eq_empty_iff.1 free]

end Comments

/-- Whether a call is ignored: the comments above its statement count, if it is a statement. -/
def Visit.aboveCall (v : Visit) : Ignore :=
  ignoreAbove (match v.around with
    | p :: _ => if p.node.kind == "expression_statement" then p.earlier else v.earlier
    | [] => v.earlier)

/-- Two visits that no collector can tell apart. The comments above them have to say the same only where they are `heard`.
Either both have the same place below the same node, or they are statements of two files. -/
structure Visit.Alike (heard : Prop) (v w : Visit) : Prop where
  node : v.node = w.node
  scope : v.scope = w.scope
  above : heard → ignoreAbove v.earlier = ignoreAbove w.earlier
  aboveCall : heard → v.aboveCall = w.aboveCall
  grandparent : v.grandparent?.map Node.kind = w.grandparent?.map Node.kind
  place : v.parent? = w.parent? ∧ v.earlier = w.earlier ∨
    v.parent?.map Node.kind = some "program" ∧ w.parent?.map Node.kind = some "program"

section Alike

variable {heard : Prop} {v w : Visit} (file : String)

theorem definedSymbol?_eq (v : Visit) : definedSymbol? file v =
    if isDefine v.node then
      match (firstArgument? v.node).bind literalText? with
      | none => none
      | some value =>
        if value.isEmpty then none else
        some { kind := .globalConstant, name := String.ofList (Text.afterLast '\\' (Name.unrooted value).toList)
               space := String.ofList ((Text.beforeLast? '\\' (Name.unrooted value).toList).getD []), file
               startLine := v.node.line, endLine := v.node.endLine
               ignored := v.aboveCall.ignored, ignoredRule := v.aboveCall.rule
               metadata := [("defined_with", .str "define")] }
    else none := rfl

theorem Visit.Alike.symbolsAt_eq (alike : v.Alike heard w) (hears : heard) (ignores : ClassIgnores) :
    symbolsAt file ignores v = symbolsAt file ignores w := by
  have member : memberIgnore ignores v = memberIgnore ignores w := by
    simp only [memberIgnore, alike.scope, alike.above hears]
  have defined : definedSymbol? file v = definedSymbol? file w := by
    rw [definedSymbol?_eq, definedSymbol?_eq, alike.node, alike.aboveCall hears]
  unfold symbolsAt classSymbol functionSymbol methodSymbol propertySymbols promotedSymbol constantSymbols enumCaseSymbol?
  rw [alike.node, alike.scope, alike.above hears, alike.grandparent, member, defined]

theorem Visit.Alike.constantReferences_eq (alike : v.Alike heard w) :
    constantReferences file v = constantReferences file w := by
  have outside : ∀ u : Visit, u.parent?.map Node.kind = some "program" → constantReferences file u = [] := by
    intro u program
    obtain ⟨parent, above, kind⟩ := Option.map_eq_some_iff.1 program
    simp [constantReferences, above, isConstantPlace, kind, expressionParents]
  rcases alike.place with ⟨parent, earlier⟩ | ⟨left, right⟩
  · have spot : isConstantPlace v = isConstantPlace w := by
      funext p
      simp only [isConstantPlace, Visit.isFirstNamed, Visit.isField, alike.node, parent, earlier]
    simp only [constantReferences, named, alike.node, alike.scope, parent, spot]
  · rw [outside v left, outside w right]

theorem Visit.Alike.referencesAt_eq (alike : v.Alike heard w) : referencesAt file v = referencesAt file w := by
  have constant := alike.constantReferences_eq file
  obtain ⟨node, scope, -, -, -, -⟩ := alike
  obtain ⟨n, earlier, s, around⟩ := v
  obtain ⟨n', earlier', s', around'⟩ := w
  obtain rfl : n = n' := node
  obtain rfl : s = s' := scope
  -- all but the names of constants is read off the node and the scope
  unfold referencesAt
  rw [constant]
  rfl

end Alike

/-- Two visits in different surroundings, otherwise the same. -/
def Visit.Moved (outer outer' : List Place) (v w : Visit) : Prop :=
  ∃ n earlier scope inner, v = ⟨n, earlier, scope, inner ++ outer⟩ ∧ w = ⟨n, earlier, scope, inner ++ outer'⟩

/-- Two visits that are alike, or two of one namespace, which tells nothing itself. -/
inductive Visit.Twin (heard : Prop) (v w : Visit) : Prop
  | alike (alike : v.Alike heard w)
  | space (node : v.node = w.node) (kind : v.node.kind = "namespace_definition")

section Walks

variable {heard : Prop} {file : String}

mutual

/-- The walk below a node hears of what is around only through the node directly above. -/
theorem moved_visitsOf {outer outer' : List Place}
    (parent : outer.head?.map (·.node) = outer'.head?.map (·.node)) (inner : List Place) (earlier : List Node)
    (scope : Scope) :
    (n : Node) → List.Forall₂ (Visit.Moved outer outer') (visitsOf file (inner ++ outer) earlier scope n)
      (visitsOf file (inner ++ outer') earlier scope n)
  | .mk i cs => by
    have above : (inner ++ outer).head?.map (·.node) = (inner ++ outer').head?.map (·.node) := by
      cases inner with
      | nil => exact parent
      | cons p inner => rfl
    rw [visitsOf, visitsOf]
    refine .cons ⟨_, _, _, inner, rfl, rfl⟩ ?_
    rw [above]
    exact moved_visitsOfChildren parent (⟨.mk i cs, earlier⟩ :: inner) _ _ _ cs

theorem moved_visitsOfChildren {outer outer' : List Place}
    (parent : outer.head?.map (·.node) = outer'.head?.map (·.node)) (inner : List Place) (statements : Bool)
    (earlier : List Node) (scope : Scope) :
    (cs : List Node) → List.Forall₂ (Visit.Moved outer outer')
      (visitsOfChildren file (inner ++ outer) statements earlier scope cs)
      (visitsOfChildren file (inner ++ outer') statements earlier scope cs)
  | [] => by
    rw [visitsOfChildren, visitsOfChildren]
    exact .nil
  | c :: cs => by
    rw [visitsOfChildren_cons, visitsOfChildren_cons]
    exact List.rel_append (moved_visitsOf parent inner _ _ c) (moved_visitsOfChildren parent inner _ _ _ cs)

end

variable {r r' : Node} (program : r.kind = "program") (program' : r'.kind = "program")
include program program'

/-- Below a statement of two files the visits are alike. -/
theorem Visit.Moved.alike {n : Node} {earlier earlier' : List Node} {v w : Visit}
    (above : heard → n.kind = "expression_statement" → ignoreAbove earlier = ignoreAbove earlier')
    (moved : v.Moved [⟨n, earlier⟩, ⟨r, []⟩] [⟨n, earlier'⟩, ⟨r', []⟩] w) : v.Alike heard w := by
  obtain ⟨m, before, scope, inner, rfl, rfl⟩ := moved
  cases inner with
  | nil =>
    refine ⟨rfl, rfl, fun _ => rfl, fun hears => ?_, ?_, Or.inl ⟨rfl, rfl⟩⟩
    · show ignoreAbove (if n.kind == "expression_statement" then earlier else before) =
        ignoreAbove (if n.kind == "expression_statement" then earlier' else before)
      split
      · next kind => exact above hears (beq_iff_eq.1 kind)
      · rfl
    · show some r.kind = some r'.kind
      rw [program, program']
  | cons p inner =>
    refine ⟨rfl, rfl, fun _ => rfl, fun _ => rfl, ?_, Or.inl ⟨rfl, rfl⟩⟩
    cases inner with
    | nil => rfl
    | cons q inner => rfl

/-- A statement of two files, with everything below it: a namespace that resets the scope, or one with the same scope and
the same tag above it. -/
theorem twins_visitsOf {n : Node} {earlier earlier' : List Node} {s s' : Scope} (below : scopeBelow n s = scopeBelow n s')
    (same : n.kind = "namespace_definition" ∨ s = s' ∧ (heard → ignoreAbove earlier = ignoreAbove earlier')) :
    List.Forall₂ (Visit.Twin heard) (visitsOf file [⟨r, []⟩] earlier s n) (visitsOf file [⟨r', []⟩] earlier' s' n) := by
  have statements : isStatementList n (some r) = isStatementList n (some r') := by
    simp [isStatementList, program, program']
  rw [visitsOf_eq, visitsOf_eq, below]
  refine .cons ?_ ?_
  · rcases same with kind | ⟨scope, above⟩
    · exact .space rfl kind
    · refine .alike ⟨rfl, scope, above, fun hears => ?_, rfl, Or.inr ?_⟩
      · show ignoreAbove (if r.kind == "expression_statement" then [] else earlier) =
          ignoreAbove (if r'.kind == "expression_statement" then [] else earlier')
        rw [program, program']
        exact above hears
      · exact ⟨congrArg some program, congrArg some program'⟩
  · show List.Forall₂ _ (visitsOfChildren file ([] ++ [⟨n, earlier⟩, ⟨r, []⟩]) (isStatementList n (some r)) _ _ _)
      (visitsOfChildren file ([] ++ [⟨n, earlier'⟩, ⟨r', []⟩]) (isStatementList n (some r')) _ _ _)
    have parent : ([⟨n, earlier⟩, ⟨r, []⟩] : List Place).head?.map (·.node) =
      ([⟨n, earlier'⟩, ⟨r', []⟩] : List Place).head?.map (·.node) := rfl
    rw [statements]
    refine (moved_visitsOfChildren parent [] _ _ _ _).imp fun v w moved => ?_
    refine .alike (moved.alike program program' fun hears kind => ?_)
    rcases same with space | ⟨-, above⟩
    · simp [space] at kind
    · exact above hears

/-- Statements of two files in the same scope. What stands before them has no tag to give. -/
theorem twins_statements {base base' : List Node} (free : heard → ignoreAbove base = {})
    (free' : heard → ignoreAbove base' = {}) (near : List Node) (s : Scope) (cs : List Node) :
    List.Forall₂ (Visit.Twin heard) (visitsOfChildren file [⟨r, []⟩] true (near ++ base) s cs)
      (visitsOfChildren file [⟨r', []⟩] true (near ++ base') s cs) := by
  induction cs generalizing near s with
  | nil =>
    rw [visitsOfChildren, visitsOfChildren]
    exact .nil
  | cons c cs ih =>
    rw [visitsOfChildren_cons, visitsOfChildren_cons]
    refine List.rel_append (twins_visitsOf program program' rfl (Or.inr ⟨rfl, fun hears => ?_⟩)) (ih (c :: near) _)
    rw [ignoreAbove_append (free hears), ignoreAbove_append (free' hears)]

/-- Blocks start afresh, wherever they stand. -/
theorem twins_blocks {cs : List Node} (blocks : ∀ n ∈ cs, isBlock n = true) (earlier earlier' : List Node) (s s' : Scope) :
    List.Forall₂ (Visit.Twin heard) (visitsOfChildren file [⟨r, []⟩] true earlier s cs)
      (visitsOfChildren file [⟨r', []⟩] true earlier' s' cs) := by
  induction cs generalizing earlier earlier' s s' with
  | nil =>
    rw [visitsOfChildren, visitsOfChildren]
    exact .nil
  | cons c cs ih =>
    have block := blocks c List.mem_cons_self
    have below : ∀ s, scopeBelow c s = ({} : Scope).enterNamespace (c.childText "name") := by
      intro s
      rw [scopeBelow, ← isBlock, if_pos block]
      rfl
    rw [visitsOfChildren_cons, visitsOfChildren_cons]
    refine List.rel_append (twins_visitsOf program program' ?_ (Or.inl (kind_of_isBlock block))) ?_
    · rw [below, below]
    · exact ih (fun n mem => blocks n (List.mem_cons_of_mem _ mem)) _ _ _ _

end Walks

/-- Two records of the ignored classes that agree on the classes met so far. -/
def IgnoresAgree (seen : List Visit) (is js : ClassIgnores) : Prop :=
  ∀ u ∈ seen, u.node.isClassLike = true → Assoc.get? is u.className = Assoc.get? js u.className

section Collected

variable {heard : Prop} {file : String} {v w : Visit} {seen : List Visit} {is js : ClassIgnores}

/-- A file and a namespace tell nothing themselves. -/
theorem silent (kind : v.node.kind = "program" ∨ v.node.kind = "namespace_definition") (ignores : ClassIgnores) :
    symbolsAt file ignores v = [] ∧ ignoresAfter file ignores v = ignores ∧ referencesAt file v = [] := by
  have like : v.node.isClassLike = false := by
    rcases kind with kind | kind
    all_goals simp [Node.isClassLike, kind]
  refine ⟨?_, ?_, ?_⟩
  · unfold symbolsAt
    rcases kind with kind | kind
    all_goals simp [like, kind]
  · simp [ignoresAfter, like]
  · unfold referencesAt
    dsimp only
    rcases kind with kind | kind
    all_goals
      rw [kind]
      rfl

theorem Visit.Twin.node_eq (twin : v.Twin heard w) : v.node = w.node := by
  cases twin with
  | alike alike => exact alike.node
  | space node kind => exact node

theorem Visit.Twin.referencesAt_eq (twin : v.Twin heard w) : referencesAt file v = referencesAt file w := by
  cases twin with
  | alike alike => exact alike.referencesAt_eq file
  | space node kind => rw [(silent (Or.inr kind) []).2.2, (silent (Or.inr (node ▸ kind)) []).2.2]

theorem Visit.Twin.symbolsAt_eq (twin : v.Twin heard w) (hears : heard) (ignores : ClassIgnores) :
    symbolsAt file ignores v = symbolsAt file ignores w := by
  cases twin with
  | alike alike => exact alike.symbolsAt_eq file hears ignores
  | space node kind => rw [(silent (Or.inr kind) ignores).1, (silent (Or.inr (node ▸ kind)) ignores).1]

theorem Visit.Twin.ignoresAfter_eq (twin : v.Twin heard w) (hears : heard) (ignores : ClassIgnores) :
    ignoresAfter file ignores v = ignoresAfter file ignores w := by
  cases twin with
  | alike alike => simp only [ignoresAfter, classSymbol, alike.node, alike.scope, alike.above hears]
  | space node kind => rw [(silent (Or.inr kind) ignores).2.1, (silent (Or.inr (node ▸ kind)) ignores).2.1]

/-- A node asks for no class but the one that it stands in. -/
theorem IgnoresAgree.symbolsAt_eq (agree : IgnoresAgree seen is js) (among : ClassAmong seen w.scope.currentClass) :
    symbolsAt file is w = symbolsAt file js w := by
  by_cases anonymous : w.scope.currentClass = some anonymousClass
  · have skipped : (w.scope.currentClass == some anonymousClass) = true := beq_iff_eq.2 anonymous
    simp only [symbolsAt, skipped, if_true]
  · have member : memberIgnore is w = memberIgnore js w := by
      rcases among with none | some | ⟨u, mem, like, eq⟩
      · simp only [memberIgnore, none, Option.bind_none]
      · exact absurd some anonymous
      · simp only [memberIgnore, eq, Option.bind_some, agree u mem like]
    unfold symbolsAt methodSymbol propertySymbols promotedSymbol constantSymbols enumCaseSymbol?
    rw [member]

/-- A class is put on record where it is met. -/
theorem IgnoresAgree.after (agree : IgnoresAgree seen is js) (w : Visit) :
    IgnoresAgree (w :: seen) (ignoresAfter file is w) (ignoresAfter file js w) := by
  intro u mem like
  by_cases met : w.node.isClassLike = true
  · rw [ignoresAfter, ignoresAfter, if_pos met, if_pos met]
    dsimp only
    rw [fqn_classSymbol]
    by_cases same : u.className = w.className
    · rw [same, Assoc.get?_set_self, Assoc.get?_set_self]
    · rw [Assoc.get?_set_of_ne _ _ same, Assoc.get?_set_of_ne _ _ same]
      rcases List.mem_cons.1 mem with rfl | mem
      · exact absurd rfl same
      · exact agree u mem like
  · rw [ignoresAfter, ignoresAfter, if_neg met, if_neg met]
    rcases List.mem_cons.1 mem with rfl | mem
    · exact absurd like met
    · exact agree u mem like

/-- Twins add the same symbols, whatever was on record before. -/
theorem exists_symbols_of_twins {vs ws : List Visit} (twins : List.Forall₂ (Visit.Twin heard) vs ws) (hears : heard)
    (met : ClassesMet seen ws) {d e : Declared} (agree : IgnoresAgree seen d.ignores e.ignores) :
    ∃ new, (vs.foldl (Declared.step file) d).symbols = new ++ d.symbols ∧
      (ws.foldl (Declared.step file) e).symbols = new ++ e.symbols := by
  induction twins generalizing seen d e with
  | nil => exact ⟨[], rfl, rfl⟩
  | @cons v w vs ws twin _ ih =>
    have here : symbolsAt file d.ignores v = symbolsAt file e.ignores w :=
      (twin.symbolsAt_eq hears _).trans (agree.symbolsAt_eq met.1)
    have next : IgnoresAgree (w :: seen) (d.step file v).ignores (e.step file w).ignores := by
      show IgnoresAgree _ (ignoresAfter file d.ignores v) (ignoresAfter file e.ignores w)
      rw [twin.ignoresAfter_eq hears]
      exact agree.after w
    obtain ⟨new, left, right⟩ := ih met.2 next
    refine ⟨new ++ (symbolsAt file e.ignores w).reverse, ?_, ?_⟩
    · rw [List.foldl_cons, left, Declared.step, here, List.append_assoc]
    · rw [List.foldl_cons, right, Declared.step, List.append_assoc]

end Collected

section Files

variable (file : String)

theorem visitsOfChildren_append (around : List Place) (earlier : List Node) (s : Scope) (first second : List Node) :
    visitsOfChildren file around true earlier s (first ++ second) =
      visitsOfChildren file around true earlier s first ++
        visitsOfChildren file around true (first.reverse ++ earlier) (scopeThrough file s first) second := by
  induction first generalizing earlier s with
  | nil => rw [visitsOfChildren]; rfl
  | cons c first ih =>
    rw [List.cons_append, visitsOfChildren_cons, visitsOfChildren_cons, ih, List.append_assoc, List.reverse_cons,
      List.append_assoc]
    rfl

/-- The visits of the statements of a file. -/
def statementVisits (root : Node) : List Visit := visitsOfChildren file [⟨root, []⟩] true [] {} root.children

/-- The walk of a file: the file itself and its statements. -/
theorem visits_program {root : Node} (program : root.kind = "program") :
    visits file root = ⟨root, [], {}, []⟩ :: statementVisits file root := by
  have list : isStatementList root none = true := by simp [isStatementList, program]
  have below : scopeBelow root {} = {} := by simp [scopeBelow, Node.isClassLike, Node.isAnonymousClass, program]
  rw [visits, visitsOf_eq, below]
  show _ :: visitsOfChildren file _ (isStatementList root none) _ _ _ = _
  rw [list]
  rfl

theorem flatMap_visits_program {α : Type} {f : Visit → List α} (none : ∀ v : Visit, v.node.kind = "program" → f v = [])
    {root : Node} (program : root.kind = "program") :
    (visits file root).flatMap f = (statementVisits file root).flatMap f := by
  rw [visits_program file program, List.flatMap_cons, none _ program, List.nil_append]

theorem symbols_program {root : Node} (program : root.kind = "program") :
    symbols file root = ((statementVisits file root).foldl (Declared.step file) {}).symbols.reverse := by
  have start : Declared.step file {} ⟨root, [], {}, []⟩ = {} := by
    obtain ⟨none, same, -⟩ := silent (v := ⟨root, [], {}, []⟩) (Or.inl program) []
    show Declared.mk _ _ = _
    rw [none, same]
    rfl
  rw [symbols, visits_program file program, List.foldl_cons, start]

variable {root left right : Node} (program : root.kind = "program") (programLeft : left.kind = "program")
  (programRight : right.kind = "program") (parts : root.children = left.children ++ right.children)
  (cut : SectionCut right.children)
include program programLeft programRight parts cut

/-- **The walk of a file that is cut in two**: the walks of the parts, but for what no collector can tell. -/
theorem exists_twins : ∃ vs ws, statementVisits file root = vs ++ ws ∧
    List.Forall₂ (Visit.Twin (Shielded left.children right.children)) vs (statementVisits file left) ∧
    List.Forall₂ (Visit.Twin (Shielded left.children right.children)) ws (statementVisits file right) := by
  unfold statementVisits
  rw [parts, visitsOfChildren_append, List.append_nil]
  refine ⟨_, _, rfl, ?_, ?_⟩
  · exact twins_statements program programLeft (fun _ => rfl) (fun _ => rfl) [] {} left.children
  · generalize right.children = second at cut
    cases cut with
    | blocks blocks => exact twins_blocks program programRight blocks _ _ _ _
    | @statement n rest starts =>
      -- the statement itself is met in another scope, but leaves the same one behind
      have fresh : ∀ s, scopeFrom s n = ({} : Scope).enterNamespace (n.childText "name") := by
        intro s
        rw [scopeFrom, ← startsSection, if_pos starts]
        rfl
      have kind := kind_of_startsSection starts
      rw [visitsOfChildren_cons, visitsOfChildren_cons]
      simp only [scopeAt, scopePast, if_true, fresh]
      refine List.rel_append (twins_visitsOf program programRight rfl (Or.inl kind)) ?_
      refine twins_statements program programRight (fun shielded => ?_) (fun _ => ?_) [] _ rest
      · exact ignoreAbove_cons starts (shielded n rfl starts)
      · exact ignoreAbove_cons starts (Or.inr rfl)

/-- What is read off node by node is that of the first part and then that of the second. -/
theorem flatMap_visits_append {α : Type} {f : Visit → List α} (none : ∀ v : Visit, v.node.kind = "program" → f v = [])
    (same : ∀ v w : Visit, v.Twin (Shielded left.children right.children) w → f v = f w) :
    (visits file root).flatMap f = (visits file left).flatMap f ++ (visits file right).flatMap f := by
  have each : ∀ {vs ws : List Visit}, List.Forall₂ (Visit.Twin (Shielded left.children right.children)) vs ws →
      vs.flatMap f = ws.flatMap f := by
    intro vs ws twins
    induction twins with
    | nil => rfl
    | cons twin _ ih => rw [List.flatMap_cons, List.flatMap_cons, same _ _ twin, ih]
  obtain ⟨vs, ws, walk, twins, twins'⟩ := exists_twins file program programLeft programRight parts cut
  rw [flatMap_visits_program file none program, flatMap_visits_program file none programLeft,
    flatMap_visits_program file none programRight, walk, List.flatMap_append, each twins, each twins']

/-- The symbols of the first part and then those of the second. -/
theorem symbols_append (shielded : Shielded left.children right.children) :
    symbols file root = symbols file left ++ symbols file right := by
  have met : ∀ r : Node, ClassesMet [] (statementVisits file r) := fun r =>
    classesMet_visitsOfChildren file _ _ _ _ [] (Or.inl rfl) r.children
  have nothing : ∀ is js : ClassIgnores, IgnoresAgree [] is js := fun is js u mem => by cases mem
  obtain ⟨vs, ws, walk, twins, twins'⟩ := exists_twins file program programLeft programRight parts cut
  obtain ⟨new, whole, part⟩ := exists_symbols_of_twins twins shielded (met left) (nothing ({} : Declared).ignores
    ({} : Declared).ignores)
  obtain ⟨new', whole', part'⟩ := exists_symbols_of_twins twins' shielded (met right)
    (nothing (vs.foldl (Declared.step file) {}).ignores ({} : Declared).ignores)
  rw [symbols_program file program, symbols_program file programLeft, symbols_program file programRight, walk,
    List.foldl_append, whole', whole, part, part']
  simp

end Files

/-- Namespaces are parts of the grammar, and no tokens: their nodes are named. -/
def NamespacesNamed (statements : List Node) : Prop :=
  ∀ n ∈ statements, n.kind = "namespace_definition" → n.info.named = true

theorem shielded_of_named {first second : List Node} (named : NamespacesNamed second) : Shielded first second := by
  intro n head starts
  exact Or.inl (named n (List.mem_of_mem_head? head) (kind_of_startsSection starts))

/-- **Sections are isolated.** Where a file is cut before a namespace statement, or where only blocks follow, its symbols, its
references and its imports are those of the first part and then those of the second, each read on its own. -/
theorem collected_append (file : String) {root left right : Node} (program : root.kind = "program")
    (programLeft : left.kind = "program") (programRight : right.kind = "program")
    (parts : root.children = left.children ++ right.children) (cut : SectionCut right.children)
    (named : NamespacesNamed right.children) :
    symbols file root = symbols file left ++ symbols file right ∧
      references file root = references file left ++ references file right ∧
      imports file root = imports file left ++ imports file right := by
  refine ⟨symbols_append file program programLeft programRight parts cut (shielded_of_named named), ?_, ?_⟩
  · apply flatMap_visits_append file program programLeft programRight parts cut
    · intro v kind
      exact (silent (Or.inl kind) []).2.2
    · intro v w twin
      exact twin.referencesAt_eq
  · apply flatMap_visits_append file program programLeft programRight parts cut
    · intro v kind
      simp [kind]
    · intro v w twin
      rw [twin.node_eq]

section Samples

open Context (sampleNode sampleField spaceStatement toolImports)

def fileOf (statements : List Node) : Node := sampleNode "program" "" statements

/-- A class with a method, below what else stands in its head. -/
def pumpClass (head : List Node) : Node :=
  sampleNode "class_declaration" "" (sampleField "name" "name" "Pump" [] :: head ++ [
    sampleField "body" "declaration_list" "" [
      sampleNode "method_declaration" "" [sampleField "name" "name" "run" []]]])

def tagComment : Node := sampleNode "comment" "/** @phpjanitor-ignore */" []

/-- A section with imports, in which the class is ignored. -/
def ignoredSection : List Node := spaceStatement :: toolImports ++ [tagComment, pumpClass []]

/-- A section of the same namespace with a class of the same name, whose parent is called as one of the imports. -/
def secondSection : List Node := [spaceStatement, pumpClass [sampleNode "base_clause" "" [sampleNode "name" "Tool" []]]]

theorem collected_append_pump :
    SectionCut secondSection ∧ NamespacesNamed secondSection ∧
      (symbols "a.php" (fileOf (ignoredSection ++ secondSection))).map (fun s => (s.fqn, s.owner, s.ignored)) =
        [("App\\Pump", none, true), ("App\\Pump::run", some "App\\Pump", true),
          ("App\\Pump", none, false), ("App\\Pump::run", some "App\\Pump", false)] ∧
      (references "a.php" (fileOf (ignoredSection ++ secondSection))).map (·.name) =
        ["Lib\\Kit", "Lib\\run", "App\\Tool"] ∧
      (imports "a.php" (fileOf (ignoredSection ++ secondSection))).map (·.fqn) = ["Lib\\Kit", "Lib\\run"] := by
  have cut : SectionCut secondSection := .statement (by decide +kernel)
  have named : NamespacesNamed secondSection := by
    intro n mem _
    rcases List.mem_cons.1 mem with rfl | last
    · rfl
    · obtain rfl := List.mem_singleton.1 last
      rfl
  have parts : (fileOf (ignoredSection ++ secondSection)).children =
    (fileOf ignoredSection).children ++ (fileOf secondSection).children := rfl
  obtain ⟨declare, refer, bring⟩ := collected_append "a.php" (by rfl) (by rfl) (by rfl) parts cut named
  rw [declare, refer, bring]
  refine ⟨cut, named, ?_⟩
  decide +kernel

end Samples

end DeadCode.Collect
