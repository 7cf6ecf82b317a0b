import DeadCode.Proofs.OwnObject

/-!
# Constants in expressions

A name that stands as an operand is read as a constant. Where operands stand is a matter of the grammar (`Operand`): below
most nodes of expressions and statements, in some fields, after the sign of a declaration, and in the braces of a computed
member. The collector goes by a list of nodes instead, and leaves out some of them. An operand gives a reference exactly if its
place is not left out, a declared name exactly if something named stands before it, and no other name gives one, be it a label
or a type (`constants_fetched`).
-/

namespace DeadCode
set_option autoImplicit false

theorem Scope.resolveConstant_clean (s : Scope) (raw : String) :
    s.resolveConstant (Name.clean raw) = s.resolveConstant raw := by
  simp only [resolveConstant, resolveWith, Name.clean_clean]

namespace Collect

/-- Nodes in which every name right below is an operand. -/
def operandHosts : List String := [
  -- expressions
  "unary_op_expression", "error_suppression_expression", "clone_expression", "cast_expression", "conditional_expression",
  "parenthesized_expression", "assignment_expression", "augmented_assignment_expression",
  "reference_assignment_expression", "subscript_expression", "sequence_expression", "print_intrinsic", "throw_expression",
  "yield_expression", "include_expression", "include_once_expression", "require_expression", "require_once_expression",
  "match_condition_list", "match_conditional_expression", "match_default_expression", "dynamic_variable_name",
  -- elements of arrays and of calls; the name of a class constant may be computed
  "arguments", "array_element_initializer", "list_literal", "variadic_unpacking", "name",
  -- statements and declarations
  "expression_statement", "echo_statement", "return_statement", "exit_statement", "case_statement", "for_statement",
  "foreach_statement", "property_element", "property_initializer", "static_variable_declaration"]

/-- Nodes with an operand in a field. -/
def operandFields : List (String × String) := [
  ("arrow_function", "body"), ("property_hook", "body"), ("simple_parameter", "default_value"),
  ("property_promotion_parameter", "default_value"), ("member_access_expression", "object"),
  ("nullsafe_member_access_expression", "object"), ("member_call_expression", "object"),
  ("nullsafe_member_call_expression", "object")]

/-- Nodes that name a member, which may be computed in braces. -/
def memberHosts : List String := objectAccessKinds ++ ["scoped_call_expression"]

/-- Nodes that declare a constant, with its value after an equals sign. -/
def declaringHosts : List String := ["const_element", "enum_case"]

/-- Nodes of types. -/
def typeHosts : List String :=
  ["named_type", "optional_type", "union_type", "intersection_type", "disjunctive_normal_form_type", "type_list"]

def parameterHosts : List String := ["simple_parameter", "property_promotion_parameter", "variadic_parameter"]

/-- Does the sign stand before the node, below the same one? -/
def Visit.follows (v : Visit) (sign : String) : Bool := v.earlier.any (·.kind == sign)

/-- The node stands as an operand below its parent. -/
inductive Operand (v : Visit) (parent : Node) : Prop
  | plain (host : parent.kind ∈ operandHosts)
  | field {field : String} (host : (parent.kind, field) ∈ operandFields) (at_ : v.isField field = true)
  | argument (host : parent.kind = "argument") (value : v.isField "name" = false)
  | binary (host : parent.kind = "binary_expression") (value : isInstanceTest parent = false ∨ v.isField "left" = true)
  | value (host : parent.kind ∈ declaringHosts) (after : v.follows "=" = true)
  | computed (host : parent.kind ∈ memberHosts) (braces : v.follows "\x7b" = true)

/-- The node is the name that its parent declares. -/
structure DeclaredName (v : Visit) (parent : Node) : Prop where
  host : parent.kind ∈ declaringHosts
  before : v.follows "=" = false

/-- The node is the label of an argument. -/
structure ArgumentLabel (v : Visit) (parent : Node) : Prop where
  host : parent.kind = "argument"
  label : v.isField "name" = true

/-- The node is the type of a parameter, or a part of a type. -/
def TypeName (v : Visit) (parent : Node) : Prop :=
  parent.kind ∈ typeHosts ∨ (parent.kind ∈ parameterHosts ∧ v.isField "type" = true)

/-- Nodes whose operands the collector does not know. -/
def overlookedHosts : List String := [
  "error_suppression_expression", "clone_expression", "include_expression", "include_once_expression",
  "require_expression", "require_once_expression", "match_default_expression", "dynamic_variable_name", "list_literal",
  "name", "for_statement", "foreach_statement", "arrow_function", "property_hook"] ++ memberHosts

/-- Is the operand passed over? So is the left side of a class test. -/
def overlooks (v : Visit) (parent : Node) : Bool :=
  overlookedHosts.contains parent.kind || (parent.kind == "binary_expression" && isInstanceTest parent) ||
    (declaringHosts.contains parent.kind && v.isFirstNamed)

/-- Is the name one of the language itself? -/
def Visit.isLanguageName (v : Visit) : Bool :=
  let bare := Name.unrooted (Name.clean v.node.text)
  bare.isEmpty || Name.isBuiltinType bare || Name.isMagicConstant bare

/-- The nodes that can name a constant. -/
def nameKinds : List String := ["name", "qualified_name"]

/-- The reference to the constant that a node names. -/
def fetch (file : String) (v : Visit) : Reference :=
  named file v .constant (v.scope.resolveConstant v.node.text) none

section Places

variable {file : String} {v : Visit} {parent : Node}

theorem eq_of_isField {a b : String} (at_ : v.isField a = true) (too : v.isField b = true) : a = b := by
  simp only [Visit.isField, beq_iff_eq] at at_ too
  obtain ⟨n, above, first⟩ := Option.bind_eq_some_iff.1 at_
  obtain ⟨m, above', second⟩ := Option.bind_eq_some_iff.1 too
  obtain rfl : n = m := Option.some.inj (above.symm.trans above')
  obtain ⟨bound, is, -⟩ := List.findIdx?_eq_some_iff_getElem.1 first
  obtain ⟨_, is', -⟩ := List.findIdx?_eq_some_iff_getElem.1 second
  exact Option.some.inj ((eq_of_beq is).symm.trans (eq_of_beq is'))

/-- Nodes below which the collector looks closer. -/
def particularHosts : List String :=
  declaringHosts ++ ["argument", "simple_parameter", "property_promotion_parameter", "binary_expression"]

/-- Below other nodes the collector goes by the kind of the node alone. -/
theorem isConstantPlace_of_not_mem (other : parent.kind ∉ particularHosts) :
    isConstantPlace v parent = expressionParents.contains parent.kind := by
  simp only [particularHosts, declaringHosts, List.cons_append, List.nil_append, List.mem_cons, List.not_mem_nil, or_false,
    not_or, ← beq_eq_false_iff_ne] at other
  obtain ⟨h₁, h₂, h₃, h₄, h₅, h₆⟩ := other
  simp only [isConstantPlace, h₁, h₂, h₃, h₄, h₅, h₆, Bool.or_self, Bool.false_and, Bool.not_false, Bool.and_true]

theorem overlooks_of_not_mem (other : parent.kind ∉ particularHosts) :
    overlooks v parent = overlookedHosts.contains parent.kind := by
  simp only [particularHosts, declaringHosts, List.cons_append, List.nil_append, List.mem_cons, List.not_mem_nil, or_false,
    not_or, ← beq_eq_false_iff_ne] at other
  obtain ⟨h₁, h₂, -, -, -, h₆⟩ := other
  simp only [overlooks, declaringHosts, List.contains_cons, List.contains_nil, h₁, h₂, h₆, Bool.or_self, Bool.false_and,
    Bool.or_false]

theorem contains_of_mem_particularHosts (host : parent.kind ∈ particularHosts) :
    expressionParents.contains parent.kind = true ∧ overlookedHosts.contains parent.kind = false := by
  have known : ∀ kind ∈ particularHosts,
      expressionParents.contains kind = true ∧ overlookedHosts.contains kind = false := by decide +kernel
  exact known _ host

/-- Where operands stand, the collector passes over exactly those that are overlooked. -/
theorem isConstantPlace_of_operand (operand : Operand v parent) : isConstantPlace v parent = !overlooks v parent := by
  have ordinary (host : parent.kind ∈ operandHosts ++ operandFields.map (·.1) ++ memberHosts)
      (other : parent.kind ∉ particularHosts) : isConstantPlace v parent = !overlooks v parent := by
    have listed : ∀ kind ∈ operandHosts ++ operandFields.map (·.1) ++ memberHosts, kind ∉ particularHosts →
        expressionParents.contains kind = !overlookedHosts.contains kind := by decide +kernel
    rw [isConstantPlace_of_not_mem other, overlooks_of_not_mem other, listed _ host other]
  cases operand with
  | plain host =>
    have other : ∀ kind ∈ operandHosts, kind ∉ particularHosts := by decide +kernel
    exact ordinary (by simp [host]) (other _ host)
  | @field f host at_ =>
    have split : ∀ e ∈ operandFields, e.1 ∉ particularHosts ∨
        e.1 ∈ ["simple_parameter", "property_promotion_parameter"] ∧ e.2 = "default_value" := by decide +kernel
    rcases split _ host with other | ⟨parameter, default⟩
    · exact ordinary (by simp [List.mem_map_of_mem (f := Prod.fst) host]) other
    · obtain rfl : f = "default_value" := default
      rcases List.mem_pair.1 parameter with kind | kind
      all_goals
        have kind : parent.kind = _ := kind
        have particular : parent.kind ∈ particularHosts := by simp [kind, particularHosts]
        obtain ⟨known, seen⟩ := contains_of_mem_particularHosts particular
        rw [isConstantPlace, overlooks, known, seen]
        simp [kind, at_, declaringHosts]
  | argument host value =>
    have particular : parent.kind ∈ particularHosts := by simp [host, particularHosts]
    obtain ⟨known, seen⟩ := contains_of_mem_particularHosts particular
    rw [isConstantPlace, overlooks, known, seen]
    simp [host, value, declaringHosts]
  | binary host value =>
    have particular : parent.kind ∈ particularHosts := by simp [host, particularHosts]
    obtain ⟨known, seen⟩ := contains_of_mem_particularHosts particular
    rw [isConstantPlace, overlooks, known, seen]
    simp [host, declaringHosts]
  | value host after =>
    obtain ⟨known, seen⟩ := contains_of_mem_particularHosts (List.mem_append_left _ host)
    rw [isConstantPlace, overlooks, known, seen]
    rcases List.mem_pair.1 host with kind | kind
    all_goals simp [kind, declaringHosts]
  | computed host braces =>
    have other : ∀ kind ∈ memberHosts, kind ∉ particularHosts := by decide +kernel
    exact ordinary (by simp [host]) (other _ host)

/-- Nothing but operands and declared names is taken for a constant. -/
theorem operand_or_declaredName (place : isConstantPlace v parent = true) : Operand v parent ∨ DeclaredName v parent := by
  have split : ∀ kind ∈ expressionParents, kind ∈ operandHosts ∨ kind ∈ particularHosts := by decide +kernel
  simp only [isConstantPlace, Bool.and_eq_true, Bool.not_eq_true', Bool.and_eq_false_iff, Bool.or_eq_false_iff,
    Bool.not_eq_false'] at place
  obtain ⟨⟨⟨⟨listed, -⟩, label⟩, value⟩, test⟩ := place
  rcases split _ (List.contains_iff_mem.1 listed) with host | host
  · exact Or.inl (.plain host)
  rcases List.mem_append.1 host with declaring | host
  · cases after : v.follows "=" with
    | true => exact Or.inl (.value declaring after)
    | false => exact Or.inr ⟨declaring, after⟩
  left
  simp only [List.mem_cons, List.not_mem_nil, or_false] at host
  rcases host with kind | kind | kind | kind
  · exact .argument kind (label.resolve_left (by simp [kind]))
  · have host : (parent.kind, "default_value") ∈ operandFields := by simp [kind, operandFields]
    exact .field host (value.resolve_left (by simp [kind]))
  · have host : (parent.kind, "default_value") ∈ operandFields := by simp [kind, operandFields]
    exact .field host (value.resolve_left (by simp [kind]))
  · exact .binary kind (Or.inl (test.resolve_left (by simp [kind])))

/-- A declared name is passed over if nothing named stands before it. -/
theorem isConstantPlace_of_declaredName (declares : DeclaredName v parent) :
    isConstantPlace v parent = !v.isFirstNamed := by
  rcases List.mem_pair.1 declares.host with kind | kind
  all_goals simp [isConstantPlace, kind, expressionParents]

theorem isConstantPlace_of_argumentLabel (label : ArgumentLabel v parent) : isConstantPlace v parent = false := by
  simp [isConstantPlace, label.host, label.label]

theorem isConstantPlace_of_typeName (type : TypeName v parent) : isConstantPlace v parent = false := by
  rcases type with host | ⟨host, at_⟩
  · have other : ∀ kind ∈ typeHosts, kind ∉ particularHosts ∧ expressionParents.contains kind = false := by decide +kernel
    rw [isConstantPlace_of_not_mem (other _ host).1, (other _ host).2]
  · have value : v.isField "default_value" = false := by
      refine Bool.eq_false_iff.2 fun too => ?_
      exact absurd (eq_of_isField at_ too) (by decide)
    simp only [parameterHosts, List.mem_cons, List.not_mem_nil, or_false] at host
    rcases host with kind | kind | kind
    · simp [isConstantPlace, kind, value]
    · simp [isConstantPlace, kind, value]
    · simp [isConstantPlace, kind, expressionParents]

theorem referencesAt_eq_constantReferences (file : String) (name : v.node.kind ∈ nameKinds) :
    referencesAt file v = constantReferences file v := by
  unfold referencesAt
  rcases List.mem_pair.1 name with kind | kind
  all_goals simp only [kind]

/-- What a name gives below its parent. -/
theorem referencesAt_of_name (file : String) (name : v.node.kind ∈ nameKinds) (below : v.parent? = some parent) :
    referencesAt file v = if isConstantPlace v parent && !v.isLanguageName then [fetch file v] else [] := by
  rw [referencesAt_eq_constantReferences file name, constantReferences, below]
  cases place : isConstantPlace v parent with
  | false => simp only [place, Bool.false_and, Bool.false_eq_true, if_false]
  | true =>
    cases word : v.isLanguageName with
    | false =>
      simp only [Visit.isLanguageName] at word
      simp only [place, word, fetch, Scope.resolveConstant_clean, Bool.not_false, Bool.and_self, Bool.false_eq_true, if_true,
        if_false]
    | true =>
      simp only [Visit.isLanguageName] at word
      simp only [place, word, Bool.not_true, Bool.and_false, Bool.false_eq_true, if_true, if_false]

end Places

section Kinds

variable {file : String} {v : Visit} {r : Reference} {kind : ReferenceKind}

theorem kind_classReference {scope : Scope} {name : Node} (h : r ∈ classReference file scope kind name) : r.kind = kind := by
  rw [classReference] at h
  split at h
  · simp at h
  · rw [List.mem_singleton.1 h, referenceAt]

theorem kind_classReferences {names : List Node} (h : r ∈ names.flatMap (classReference file v.scope kind)) :
    r.kind = kind := by
  obtain ⟨n, -, mem⟩ := List.mem_flatMap.1 h
  exact kind_classReference mem

theorem kind_memberReference {parent : Option String} {nameKind : String}
    (h : r ∈ memberReference file v kind parent nameKind) : r.kind = kind := by
  rw [memberReference] at h
  grind [named, dynamic, referenceAt]

theorem kind_newReferences (h : r ∈ newReferences file v) : r.kind = .instantiation := by
  rw [newReferences] at h
  grind [dynamic, referenceAt, kind_classReference]

theorem kind_instanceTestReferences (h : r ∈ instanceTestReferences file v) : r.kind = .instanceTest := by
  rw [instanceTestReferences] at h
  grind [dynamic, referenceAt, kind_classReference]

theorem kind_functionCallReferences (h : r ∈ functionCallReferences file v) : r.kind = .functionCall := by
  rw [functionCallReferences] at h
  grind [named, dynamic, referenceAt]

theorem kind_classConstantReferences (h : r ∈ classConstantReferences file v) :
    r.kind = .classString ∨ r.kind = .classConstantAccess := by
  rw [classConstantReferences] at h
  grind [named, referenceAt]

theorem kind_constantReferences (h : r ∈ constantReferences file v) : r.kind = .constant := by
  rw [constantReferences] at h
  grind [named, referenceAt]

theorem kind_importReferences (h : r ∈ importReferences file v) : r.kind = .importAlias ∨ r.kind = .importName := by
  obtain ⟨u, -, rfl⟩ := List.mem_map.1 h
  cases u.explicitAlias with
  | true => exact Or.inl (by simp [referenceAt])
  | false => exact Or.inr (by simp [referenceAt])

/-- Only names give references to constants. -/
theorem mem_nameKinds_of_constant (mem : r ∈ referencesAt file v) (constant : r.kind = .constant) :
    v.node.kind ∈ nameKinds := by
  have first (h : r ∈ (v.node.nameChildren.head?.map (classReference file v.scope .instantiation)).getD []) :
      r.kind = .instantiation := by
    cases found : v.node.nameChildren.head? with
    | none => simp [found] at h
    | some name => exact kind_classReference (by simpa [found] using h)
  rw [referencesAt] at mem
  split at mem
  all_goals grind [kind_importReferences, clauseReferences, kind_classReferences, kind_newReferences, kind_memberReference,
    kind_classConstantReferences, kind_functionCallReferences, kind_instanceTestReferences, catchReferences, nameKinds]

/-- Of the references that one node gives, those to constants are all or none. -/
theorem filter_constant_referencesAt (file : String) (v : Visit) :
    (referencesAt file v).filter (·.kind == .constant) =
      if nameKinds.contains v.node.kind then referencesAt file v else [] := by
  by_cases name : v.node.kind ∈ nameKinds
  · rw [if_pos (List.contains_iff_mem.2 name), List.filter_eq_self]
    intro r mem
    rw [referencesAt_eq_constantReferences file name] at mem
    exact beq_iff_eq.2 (kind_constantReferences mem)
  · rw [if_neg (mt List.contains_iff_mem.1 name), List.filter_eq_nil_iff]
    exact fun r mem constant => name (mem_nameKinds_of_constant mem (eq_of_beq constant))

/-- The references to constants are what the names of the tree give, in order. -/
theorem filter_constant_references (file : String) (root : Node) :
    (references file root).filter (·.kind == .constant) =
      ((visits file root).filter fun v => nameKinds.contains v.node.kind).flatMap (referencesAt file) := by
  rw [references]
  induction visits file root with
  | nil => rfl
  | cons v vs ih =>
    rw [List.flatMap_cons, List.filter_append, ih, filter_constant_referencesAt, List.filter_cons]
    split
    · rw [List.flatMap_cons]
    · rfl

end Kinds

/-- **Names in operands are read as constants, with gaps.** In any tree, the references to constants are what its names give.
A name that stands as an operand gives exactly one, the constant that its text means in its scope, unless it is one of the
language itself or the collector overlooks the place. A declared name gives none if it is the first named node of its
declaration, but one if an attribute or a comment stands before it. Nothing else gives one, and labels of arguments and types
are among those that do not. -/
theorem constants_fetched (file : String) (root : Node) :
    (references file root).filter (·.kind == .constant) =
        ((visits file root).filter fun v => nameKinds.contains v.node.kind).flatMap (referencesAt file) ∧
      ∀ v ∈ visits file root, v.node.kind ∈ nameKinds → ∀ parent, v.parent? = some parent →
        (Operand v parent →
          referencesAt file v = if overlooks v parent || v.isLanguageName then [] else [fetch file v]) ∧
        (DeclaredName v parent →
          referencesAt file v = if v.isFirstNamed || v.isLanguageName then [] else [fetch file v]) ∧
        (ArgumentLabel v parent ∨ TypeName v parent → referencesAt file v = []) ∧
        (referencesAt file v ≠ [] → Operand v parent ∨ DeclaredName v parent) := by
  refine ⟨filter_constant_references file root, ?_⟩
  intro v _ name parent below
  have given := referencesAt_of_name file name below
  have turned (skipped word : Bool) : (if !skipped && !word then [fetch file v] else []) =
      if skipped || word then [] else [fetch file v] := by
    cases skipped <;> cases word <;> rfl
  refine ⟨fun operand => ?_, fun declared => ?_, fun other => ?_, fun gives => ?_⟩
  · rw [given, isConstantPlace_of_operand operand, turned]
  · rw [given, isConstantPlace_of_declaredName declared, turned]
  · have none : isConstantPlace v parent = false :=
      other.elim isConstantPlace_of_argumentLabel isConstantPlace_of_typeName
    rw [given, none]
    rfl
  · apply operand_or_declaredName
    by_contra passed
    rw [Bool.not_eq_true] at passed
    rw [given, passed] at gives
    exact gives rfl

section Samples

open Context (sampleNode sampleField)

/-- A constant that is written out. -/
def echoedRate : Node := sampleNode "echo_statement" "" [sampleNode "name" "RATE" []]

/-- A function that gives the constant. -/
def givenRate : Node := sampleNode "arrow_function" "" [sampleField "body" "name" "RATE" []]

/-- An enum case of the same name, with a comment before it. -/
def caseRate : Node := sampleNode "enum_case" "" [sampleNode "comment" "" [], sampleField "name" "name" "RATE" []]

def rateFile : Node := sampleNode "program" "" [echoedRate, givenRate, caseRate]

/-- The three places of the name. -/
def echoedVisit : Visit := ⟨sampleNode "name" "RATE" [], [], {}, [⟨echoedRate, []⟩, ⟨rateFile, []⟩]⟩

def givenVisit : Visit := ⟨sampleField "body" "name" "RATE" [], [], {}, [⟨givenRate, [echoedRate]⟩, ⟨rateFile, []⟩]⟩

def caseVisit : Visit :=
  ⟨sampleField "name" "name" "RATE" [], [sampleNode "comment" "" []], {},
    [⟨caseRate, [givenRate, echoedRate]⟩, ⟨rateFile, []⟩]⟩

theorem constants_fetched_rate :
    (echoedVisit ∈ visits "a.php" rateFile ∧ Operand echoedVisit echoedRate ∧
        referencesAt "a.php" echoedVisit = [fetch "a.php" echoedVisit]) ∧
      (givenVisit ∈ visits "a.php" rateFile ∧ Operand givenVisit givenRate ∧ referencesAt "a.php" givenVisit = []) ∧
      (caseVisit ∈ visits "a.php" rateFile ∧ DeclaredName caseVisit caseRate ∧
        referencesAt "a.php" caseVisit = [fetch "a.php" caseVisit]) := by
  have echoed : echoedVisit ∈ visits "a.php" rateFile :=
    List.mem_of_getElem? (show (visits "a.php" rateFile)[2]? = some echoedVisit from rfl)
  have given : givenVisit ∈ visits "a.php" rateFile :=
    List.mem_of_getElem? (show (visits "a.php" rateFile)[4]? = some givenVisit from rfl)
  have declared : caseVisit ∈ visits "a.php" rateFile :=
    List.mem_of_getElem? (show (visits "a.php" rateFile)[7]? = some caseVisit from rfl)
  have plain : Operand echoedVisit echoedRate := .plain (by decide +kernel)
  have listed : (givenRate.kind, "body") ∈ operandFields := by decide +kernel
  have body : Operand givenVisit givenRate := .field listed (by decide +kernel)
  have name : DeclaredName caseVisit caseRate := ⟨by decide +kernel, by decide +kernel⟩
  obtain ⟨-, each⟩ := constants_fetched "a.php" rateFile
  refine ⟨⟨echoed, plain, ?_⟩, ⟨given, body, ?_⟩, ⟨declared, name, ?_⟩⟩
  · rw [(each _ echoed (by decide +kernel) _ rfl).1 plain]
    exact if_neg (by decide +kernel)
  · rw [(each _ given (by decide +kernel) _ rfl).1 body]
    exact if_pos (by decide +kernel)
  · rw [(each _ declared (by decide +kernel) _ rfl).2.1 name]
    exact if_neg (by decide +kernel)

/-- The constants that are read in a file with one statement. -/
def constantsIn (statement : Node) : List String :=
  ((references "a.php" (sampleNode "program" "" [statement])).filter (·.kind == .constant)).map (·.name)

/-- Constants that are read and give no reference: as the result of an arrow function, in the head of a loop, in the default
arm of a `match` and after `include`. The name of an enum case after a comment is only declared, and gives one. -/
theorem constants_overlooked :
    constantsIn (sampleNode "arrow_function" "" [sampleField "body" "name" "A" []]) = [] ∧
      constantsIn (sampleNode "foreach_statement" "" [sampleNode "name" "A" [],
        sampleNode "variable_name" "$x" [sampleNode "name" "x" []], sampleField "body" "empty_statement" "" []]) = [] ∧
      constantsIn (sampleNode "match_expression" "" [sampleField "condition" "parenthesized_expression" "" [],
        sampleField "body" "match_block" ""
          [sampleNode "match_default_expression" "" [sampleField "return_expression" "name" "A" []]]]) = [] ∧
      constantsIn (sampleNode "include_expression" "" [sampleNode "name" "A" []]) = [] ∧
      constantsIn (sampleNode "enum_declaration" "" [sampleField "name" "name" "E" [],
        sampleField "body" "enum_declaration_list" ""
          [sampleNode "enum_case" "" [sampleNode "comment" "/**/" [], sampleField "name" "name" "A" []]]]) = ["A"] := by
  decide +kernel

end Samples

end Collect

end DeadCode
