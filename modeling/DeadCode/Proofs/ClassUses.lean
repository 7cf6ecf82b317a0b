import DeadCode.Proofs.ImportUse
import DeadCode.Proofs.Sections

/-!
# Class names and the imports that they use

`Uses` lists the places of a syntax tree where a class is named: after `new`, in the head of a class, in a type, before a
double colon and so on. The walk gives a reference for the name in each of them, but for a few cases that it passes over
(`Missed`): the old names of three types, a comment after `new`, and members that are computed. Apart from these, an import
that is used further down in its section is not reported (`used_import_not_reported`), as long as its alias is not taken
over by one that is the same in small letters of every alphabet.
-/

namespace DeadCode
set_option autoImplicit false

namespace Text

/-- The small form of a letter from A to Z; other characters stay. -/
def asciiLower (c : Char) : Char := if c.toNat < 128 then lowerChar c else c

/-- The texts differ at most in the case of the letters from A to Z. -/
def SameAscii (a b : String) : Prop := a.toList.map asciiLower = b.toList.map asciiLower

/-- Going over to small letters from A to Z changes nothing that matters for the small letters of every alphabet. -/
theorem asciiLower_same (c : Char) :
    lowerChar (asciiLower c) = lowerChar c ∧ isCased (asciiLower c) = isCased c ∧
      isCaseIgnorable (asciiLower c) = isCaseIgnorable c ∧
      ((asciiLower c).toNat < 128 ∧ c.toNat < 128 ∨ asciiLower c = c) := by
  by_cases ascii : c.toNat < 128
  · have each : ∀ n < 128, lowerChar (asciiLower (Char.ofNat n)) = lowerChar (Char.ofNat n) ∧
        isCased (asciiLower (Char.ofNat n)) = isCased (Char.ofNat n) ∧
        isCaseIgnorable (asciiLower (Char.ofNat n)) = isCaseIgnorable (Char.ofNat n) ∧
        (asciiLower (Char.ofNat n)).toNat < 128 := by decide +kernel
    obtain ⟨lower, cased, ignorable, small⟩ := each c.toNat ascii
    rw [Char.ofNat_toNat] at lower cased ignorable small
    exact ⟨lower, cased, ignorable, Or.inl ⟨small, ascii⟩⟩
  · have same : asciiLower c = c := if_neg ascii
    rw [same]
    exact ⟨rfl, rfl, rfl, Or.inr rfl⟩

theorem meetsCased_map_asciiLower (cs : List Char) : meetsCased (cs.map asciiLower) = meetsCased cs := by
  unfold meetsCased
  induction cs with
  | nil => rfl
  | cons c cs ih =>
    obtain ⟨-, cased, ignorable, -⟩ := asciiLower_same c
    by_cases passed : isCaseIgnorable c = true
    · simpa only [List.map_cons, List.dropWhile_cons, ignorable, passed, if_true] using ih
    · simp [ignorable, passed, cased]

theorem lowerFrom_map_asciiLower (before cs : List Char) :
    lowerFrom (before.map asciiLower) (cs.map asciiLower) = lowerFrom before cs := by
  induction cs generalizing before with
  | nil => rfl
  | cons c cs ih =>
    obtain ⟨lower, -, -, ascii | same⟩ := asciiLower_same c
    · rw [List.map_cons, lowerFrom, lowerFrom, if_neg (by omega), if_neg (by omega), if_neg (by omega), if_neg (by omega),
        lower, ← List.map_cons, ih]
    · rw [List.map_cons, lowerFrom, lowerFrom, same, meetsCased_map_asciiLower, meetsCased_map_asciiLower]
      have later := ih (c :: before)
      rw [List.map_cons, same] at later
      rw [later]

theorem lower_eq_of_sameAscii {a b : String} (same : SameAscii a b) : lower a = lower b := by
  rw [← String.toList_inj, toList_lower, toList_lower, ← lowerFrom_map_asciiLower [] a.toList,
    ← lowerFrom_map_asciiLower [] b.toList, same]

theorem lower_eq_empty {s : String} (empty : lower s = "") : s = "" := by
  have chars : lowerFrom [] s.toList = [] := by
    rw [← toList_lower, empty]
    rfl
  cases list : s.toList with
  | nil => exact String.toList_inj.1 list
  | cons c cs =>
    rw [list, lowerFrom] at chars
    have image := (List.append_eq_nil_iff.1 chars).1
    split at image
    · cases image
    · split at image
      · cases image
      · cases image

end Text

namespace Name

/-- The words that no class can be named by. -/
def reservedWords : List String := [
  "self", "static", "parent", "int", "float", "bool", "string", "true", "false", "null", "void", "iterable", "object",
  "mixed", "never", "array", "callable"]

/-- Names of types that are left from other languages. A class can be named by them. -/
def oldTypes : List String := ["integer", "double", "boolean"]

/-- A name that a class may be imported under. -/
structure IsLegal (a : String) : Prop where
  filled : a ≠ ""
  free : Text.lower a ∉ "namespace" :: reservedWords

theorem clean_clean (raw : String) : clean (clean raw) = clean raw := by
  simp [clean, Text.removeBlanks]

section Legal

variable {raw a : String}

/-- A name that is one of some words in small letters has that word as its first segment. -/
theorem lower_first_of_mem {words : List String} (single : ∀ w ∈ words, '\\' ∉ w.toList)
    (mem : Text.lower (clean raw) ∈ words) : Text.lower (cutFirst (clean raw)).1 = Text.lower (clean raw) := by
  rw [lower_cutFirst, cutFirst_of_single (single _ mem)]

theorem startsWith_eq_false (legal : IsLegal a) (first : Text.lower (cutFirst (clean raw)).1 = Text.lower a) :
    Text.startsWith (clean raw) "\\" = false := by
  refine Bool.eq_false_iff.2 fun rooted => legal.filled (Text.lower_eq_empty ?_)
  obtain ⟨rest, eq⟩ := exists_of_rooted rooted
  rw [← first, eq, cutFirst_qualified (by decide)]
  rfl

theorem isRelative_eq_false (legal : IsLegal a) (first : Text.lower (cutFirst (clean raw)).1 = Text.lower a) :
    isRelative (clean raw) = false := by
  by_contra relative
  rw [Bool.not_eq_false] at relative
  have mem : Text.lower (clean raw) ∈ relativeWords := List.contains_iff_mem.1 relative
  apply legal.free
  rw [← first, lower_first_of_mem (by decide) mem]
  exact List.mem_cons_of_mem _ (List.mem_of_mem_take (i := 3) mem)

theorem isEmpty_eq_false (legal : IsLegal a) (first : Text.lower (cutFirst (clean raw)).1 = Text.lower a) :
    raw.isEmpty = false := by
  refine Bool.eq_false_iff.2 fun empty => legal.filled (Text.lower_eq_empty ?_)
  rw [← first, String.isEmpty_iff.1 empty]
  rfl

/-- Of the types of the language, only the old names can be met. -/
theorem mem_oldTypes (legal : IsLegal a) (first : Text.lower (cutFirst (clean raw)).1 = Text.lower a)
    (builtin : isBuiltinType raw = true) : Text.lower (clean raw) ∈ oldTypes := by
  have unrooted := unrooted_eq (startsWith_eq_false legal first)
  have mem : Text.lower (clean raw) ∈ builtinTypes := by
    rw [isBuiltinType, unrooted] at builtin
    exact List.contains_iff_mem.1 builtin
  have split : ∀ w ∈ builtinTypes, w ∈ reservedWords ∨ w ∈ oldTypes := by decide
  refine (split _ mem).resolve_left fun reserved => legal.free ?_
  rw [← first, lower_first_of_mem (by decide) mem]
  exact List.mem_cons_of_mem _ reserved

end Legal

end Name

theorem Scope.resolveClass_clean (s : Scope) (raw : String) : s.resolveClass (Name.clean raw) = s.resolveClass raw := by
  simp only [resolveClass, Name.clean_clean]

namespace Collect

/-- A name inside a type, in as many parts as there are around it. -/
inductive NameIn : Node → Node → Prop
  | here {n : Node} (name : n.isName = true) : NameIn n n
  | child {t c n : Node} (type : t.isName = false) (compound : t.kind ≠ "primitive_type") (mem : c ∈ t.namedChildren)
      (inside : NameIn c n) : NameIn t n

/-- What may stand below a `new` expression besides its class. -/
def besideTarget : List String := ["arguments", "attribute_list", "comment"]

/-- A node that names a class, and the name below it. -/
inductive Uses (host name : Node) : Prop
  /-- a name in the head of a class, or of a trait that it takes in -/
  | clause (kind : host.kind ∈ ["base_clause", "class_interface_clause", "use_declaration"]) (mem : name ∈ host.nameChildren)
  /-- the class of a new object -/
  | creation (kind : host.kind = "object_creation_expression")
      (given : host.isAnonymousClass = false ∧ ∀ c ∈ host.children, c.kind ≠ "anonymous_class")
      (target : host.namedChildren.find? (fun c => !besideTarget.contains c.kind) = some name)
  /-- the class of a test -/
  | test (kind : host.kind = "binary_expression") (operator : isInstanceTest host = true)
      (right : host.child? "right" = some name)
  /-- a class of errors -/
  | caught {types : Node} (kind : host.kind = "catch_clause")
      (list : (host.child? "type").or (host.namedChildren.find? (·.kind == "type_list")) = some types)
      (inside : NameIn types name)
  /-- the type of a parameter or property -/
  | typed {type : Node}
      (kind : host.kind ∈ ["simple_parameter", "variadic_parameter", "property_promotion_parameter", "property_declaration"])
      (field : host.child? "type" = some type) (inside : NameIn type name)
  /-- the type of what a function returns -/
  | returned {type : Node}
      (kind : host.kind ∈ ["function_definition", "method_declaration", "anonymous_function",
        "anonymous_function_creation_expression", "arrow_function"])
      (field : host.child? "return_type" = some type) (inside : NameIn type name)
  | marked (kind : host.kind = "attribute") (first : host.nameChildren.head? = some name)
  /-- the class before a double colon -/
  | call (kind : host.kind = "scoped_call_expression") (field : host.child? "scope" = some name)
  | constant {member : Node} {rest : List Node} (kind : host.kind = "class_constant_access_expression")
      (parts : host.namedChildren = name :: member :: rest)
  | property (kind : host.kind = "scoped_property_access_expression") (field : host.child? "scope" = some name)

/-- The nodes with a double colon. -/
def memberKinds : List String :=
  ["scoped_call_expression", "class_constant_access_expression", "scoped_property_access_expression"]

/-- What the walk passes over: a class with the old name of a type, but not before a double colon, a class after a comment,
and the class of a member that is computed. -/
inductive Missed (host name : Node) : Prop
  | oldType (kind : host.kind ∉ memberKinds) (word : Text.lower (Name.clean name.text) ∈ Name.oldTypes)
  | comment (kind : host.kind = "object_creation_expression") (before : List Node) (after : List Node)
      (parts : host.namedChildren = before ++ name :: after) (comment : ∃ c ∈ before, c.kind = "comment")
  | call (kind : host.kind = "scoped_call_expression") (computed : ∀ m, host.child? "name" = some m → m.kind ≠ "name")
  | property (kind : host.kind = "scoped_property_access_expression")
      (computed : ∀ m, host.child? "name" = some m → m.kind ≠ "variable_name")

/-- The reference is one of the file, known and no import, and speaks of the class. -/
structure Speaks (file full : String) (r : Reference) : Prop where
  file : r.file = file
  known : r.isDynamic = false
  proper : r.kind.isImport = false
  speaks : r.name = full ∨ r.parent = some full

section References

variable (file : String) {v : Visit} {name : Node} {kind : ReferenceKind}

theorem mem_typeNamesOf {c n : Node} {cs : List Node} (mem : c ∈ cs) (named : c.info.named = true)
    (inside : n ∈ typeNames c) : n ∈ typeNamesOf cs := by
  induction cs with
  | nil => cases mem
  | cons d cs ih =>
    rw [typeNamesOf, List.mem_append]
    rcases List.mem_cons.1 mem with rfl | later
    · rw [named]
      exact Or.inl inside
    · exact Or.inr (ih later)

theorem typeNames_eq (n : Node) :
    typeNames n = if n.kind == "primitive_type" then [] else if n.isName then [n] else typeNamesOf n.children := by
  cases n with
  | mk i cs =>
    rw [typeNames]
    rfl

/-- The names that are looked up in a type are those inside it. -/
theorem NameIn.mem_typeNames {t n : Node} (inside : NameIn t n) : n ∈ typeNames t := by
  induction inside with
  | @here n name =>
    have compound : (n.kind == "primitive_type") = false := by
      refine beq_eq_false_iff_ne.2 fun eq => ?_
      simp [Node.isName, eq] at name
    rw [typeNames_eq, compound, name]
    exact List.mem_cons_self
  | @child t c n type compound mem _ ih =>
    rw [typeNames_eq, beq_eq_false_iff_ne.2 compound, type]
    obtain ⟨child, named⟩ := List.mem_filter.1 mem
    exact mem_typeNamesOf child named ih

theorem speaks_referenceAt (scope : Scope) (full : String) (at_ : Node) (proper : kind.isImport = false) :
    Speaks file full (referenceAt file scope kind full at_ none false none) :=
  ⟨rfl, rfl, proper, Or.inl rfl⟩

theorem exists_classReference (scope : Scope) (filled : name.text.isEmpty = false)
    (user : Name.isBuiltinType name.text = false) (proper : kind.isImport = false) :
    ∃ r ∈ classReference file scope kind name, Speaks file (scope.resolveClass name.text) r := by
  rw [classReference, filled, user, Bool.or_self, if_neg Bool.false_ne_true]
  exact ⟨_, List.mem_cons_self, speaks_referenceAt file scope _ name proper⟩

theorem exists_classReference_mem (scope : Scope) {names : List Node} (mem : name ∈ names)
    (filled : name.text.isEmpty = false) (user : Name.isBuiltinType name.text = false) (proper : kind.isImport = false) :
    ∃ r ∈ names.flatMap (classReference file scope kind), Speaks file (scope.resolveClass name.text) r := by
  obtain ⟨r, given, speaks⟩ := exists_classReference file scope filled user proper
  exact ⟨r, List.mem_flatMap.2 ⟨name, mem, given⟩, speaks⟩

/-- The class before a double colon. -/
theorem classOperand_of_isName (scope : Scope) (isName : name.isName = true) :
    classOperand scope (some name) = some (scope.resolveClass name.text) := by
  simp only [classOperand, Option.bind_some, isName, Bool.true_or, if_true, Scope.resolveClass_clean]

theorem exists_memberReference {full nameKind : String} {member : Node} (field : v.node.child? "name" = some member)
    (known : member.kind = nameKind) (proper : kind.isImport = false) :
    ∃ r ∈ memberReference file v kind (some full) nameKind, Speaks file full r := by
  simp only [memberReference, field, known, beq_self_eq_true, if_true]
  exact ⟨_, List.mem_cons_self, rfl, rfl, proper, Or.inr rfl⟩

/-- Unless a comment stands before it, the class of a new object is the first child that counts. -/
theorem find?_target {host : Node} (kind : host.kind = "object_creation_expression") (seen : ¬Missed host name)
    (target : host.namedChildren.find? (fun c => !besideTarget.contains c.kind) = some name) :
    host.namedChildren.find? (fun c => c.kind != "arguments" && c.kind != "attribute_list") = some name := by
  obtain ⟨counts, before, after, parts, passed⟩ := List.find?_eq_some_iff_append.1 target
  refine List.find?_eq_some_iff_append.2 ⟨?_, before, after, parts, ?_⟩
  · simp [besideTarget] at counts ⊢
    tauto
  · intro c mem
    have plain : c.kind ≠ "comment" := fun comment => seen (.comment kind before after parts ⟨c, mem, comment⟩)
    have skipped := passed c mem
    simp [besideTarget] at skipped ⊢
    tauto

/-- **A place where a class is named gives a reference,** unless it is one that the walk passes over. -/
theorem Uses.exists_reference {a : String} (uses : Uses v.node name) (isName : name.isName = true) (legal : Name.IsLegal a)
    (first : Text.lower (Name.cutFirst (Name.clean name.text)).1 = Text.lower a) (seen : ¬Missed v.node name) :
    ∃ r ∈ referencesAt file v, Speaks file (v.scope.resolveClass name.text) r := by
  have filled := Name.isEmpty_eq_false legal first
  have absolute := Name.isRelative_eq_false legal first
  have user : v.node.kind ∉ memberKinds → Name.isBuiltinType name.text = false := by
    intro kind
    refine Bool.eq_false_iff.2 fun builtin => seen (.oldType kind ?_)
    exact Name.mem_oldTypes legal first builtin
  unfold referencesAt
  cases uses with
  | clause kind mem =>
    simp only [List.mem_cons, List.not_mem_nil, or_false] at kind
    rcases kind with kind | kind | kind
    all_goals
      have user := user (by rw [kind]; decide)
      simp only [kind]
      exact exists_classReference_mem file v.scope mem filled user rfl
  | creation kind given target =>
    have user := user (by rw [kind]; decide)
    have plain : (v.node.isAnonymousClass || v.node.children.any (·.kind == "anonymous_class")) = false := by
      simpa [given.1] using given.2
    simp only [kind, newReferences, plain, Bool.false_eq_true, if_false, find?_target kind seen target, absolute, isName,
      if_true]
    exact exists_classReference file v.scope filled user rfl
  | test kind operator right =>
    have user := user (by rw [kind]; decide)
    simp only [kind, instanceTestReferences, operator, Bool.not_true, Bool.false_eq_true, if_false, right, absolute, isName,
      if_true]
    exact exists_classReference file v.scope filled user rfl
  | caught kind list inside =>
    have user := user (by rw [kind]; decide)
    simp only [kind, catchReferences, list, typeNames?, Option.map_some, Option.getD_some]
    exact exists_classReference_mem file v.scope inside.mem_typeNames filled user rfl
  | typed kind field inside =>
    simp only [List.mem_cons, List.not_mem_nil, or_false] at kind
    rcases kind with kind | kind | kind | kind
    all_goals
      have user := user (by rw [kind]; decide)
      simp only [kind, field, typeNames?, Option.map_some, Option.getD_some]
      exact exists_classReference_mem file v.scope inside.mem_typeNames filled user rfl
  | returned kind field inside =>
    simp only [List.mem_cons, List.not_mem_nil, or_false] at kind
    rcases kind with kind | kind | kind | kind | kind
    all_goals
      have user := user (by rw [kind]; decide)
      simp only [kind, field, typeNames?, Option.map_some, Option.getD_some]
      exact exists_classReference_mem file v.scope inside.mem_typeNames filled user rfl
  | marked kind head =>
    have user := user (by rw [kind]; decide)
    simp only [kind, head, Option.map_some, Option.getD_some]
    exact exists_classReference file v.scope filled user rfl
  | call kind field =>
    obtain ⟨member, name, known⟩ : ∃ m, v.node.child? "name" = some m ∧ m.kind = "name" := by
      by_contra none
      exact seen (.call kind fun m eq known => none ⟨m, eq, known⟩)
    simp only [kind, field, classOperand_of_isName v.scope isName]
    exact exists_memberReference file name known rfl
  | constant kind parts =>
    simp only [kind, classConstantReferences, parts]
    split
    · simp only [isName, absolute, Bool.not_false, Bool.and_self, if_true, Scope.resolveClass_clean]
      exact ⟨_, List.mem_cons_self, speaks_referenceAt file v.scope _ v.node rfl⟩
    · rw [classOperand_of_isName v.scope isName]
      exact ⟨_, List.mem_cons_self, rfl, rfl, rfl, Or.inr rfl⟩
  | property kind field =>
    obtain ⟨member, name, known⟩ : ∃ m, v.node.child? "name" = some m ∧ m.kind = "variable_name" := by
      by_contra none
      exact seen (.property kind fun m eq known => none ⟨m, eq, known⟩)
    simp only [kind, field, classOperand_of_isName v.scope isName]
    exact exists_memberReference file name known rfl

end References

end Collect

/-- **A used import is not reported.** Let a class be imported in a section of a file, and let no import further down in the
section have the same alias in small letters. If a name that starts with the alias stands for a class in a later statement
of the section, and the walk does not pass over that place, then the rule about imports, run with the references of the
file, has no finding about the imported class there. -/
theorem Context.used_import_not_reported {c : Context} {file : String} {root statement host name : Node}
    {earlier : List Node} {u : Import} {before after : List Import}
    (collected : ∀ r ∈ Collect.references file root, r ∈ c.references)
    (within : Collect.InSection root earlier statement)
    (imported : Collect.importsIn file earlier = before ++ u :: after) (latest : ∀ v ∈ after, ¬v.Overrides u)
    (brings : u.brings = .classes) (named : u.fqn ≠ "") (legal : Name.IsLegal u.asName)
    (inside : Collect.Inside statement host) (uses : Collect.Uses host name) (isName : name.isName = true)
    (first : Text.SameAscii (Name.cutFirst (Name.clean name.text)).1 u.asName) (seen : ¬Collect.Missed host name) :
    ∃ found, c.runRule Rule.imports.label = .ok found ∧ ∀ i ∈ found, i.file = file → i.symbol ≠ u.fqn := by
  obtain ⟨s, v, visited, rfl, aliases⟩ := Collect.exists_visit_of_inSection file within inside
  have lower := Text.lower_eq_of_sameAscii first
  obtain ⟨r, given, speaks⟩ := uses.exists_reference file isName legal lower seen
  have held : Assoc.get? v.scope.classAliases (Text.lower (Name.cutFirst (Name.clean name.text)).1) = some u.fqn := by
    have held := Scope.get?_aliases_withImports s before latest
    rw [← imported, brings] at held
    rw [aliases, lower]
    exact held
  have plain : Text.lower (Name.cutFirst (Name.clean name.text)).1 ∉ ["self", "static", "parent", "namespace"] := by
    have words : ["self", "static", "parent", "namespace"] ⊆ "namespace" :: Name.reservedWords := by decide
    rw [lower]
    exact fun mem => legal.free (words mem)
  have full := Scope.resolveClass_of_alias (Name.startsWith_eq_false legal lower) plain held named
  have mem : r ∈ Collect.references file root := List.mem_flatMap.2 ⟨v, visited, given⟩
  have unreported := not_reported_of_within full named (collected r mem) speaks.known speaks.proper speaks.speaks
  rwa [speaks.file] at unreported

namespace Context

section Samples

/-- A node of a sample tree. -/
def sampleNode (kind text : String) (children : List Node) : Node := .mk { kind, text, line := 1, endLine := 1 } children

/-- A node of a sample tree, with a field name. -/
def sampleField (field kind text : String) (children : List Node) : Node :=
  .mk { kind, text, line := 1, endLine := 1, field := some field } children

/-- The statement that starts the section of the sample. -/
def spaceStatement : Node :=
  sampleNode "namespace_definition" "namespace App;" [sampleField "name" "namespace_name" "App" []]

/-- An import under the alias `Tool`. -/
def importStatement (target : String) (word : List Node) : Node :=
  sampleNode "namespace_use_declaration" "" (word ++ [sampleNode "namespace_use_clause" ""
    [sampleNode "qualified_name" target [], sampleNode "namespace_aliasing_clause" "" [sampleNode "name" "Tool" []]]])

/-- An import of a class, and one of a function, which leaves the alias of the class alone. -/
def toolImports : List Node :=
  [importStatement "Lib\\Kit" [], importStatement "Lib\\run" [sampleNode "function" "function" []]]

/-- A name below the imported class. -/
def partName : Node := sampleNode "qualified_name" "tOOL\\Part" []

def partType : Node := sampleNode "named_type" "" [partName]

/-- A parameter with that type or null. -/
def partParameter : Node := sampleNode "simple_parameter" "" [sampleField "type" "optional_type" "" [partType]]

def partParameters : Node := sampleField "parameters" "formal_parameters" "" [partParameter]

/-- A function with the parameter. -/
def partFunction : Node := sampleNode "function_definition" "" [sampleField "name" "name" "f" [], partParameters]

/-- The file with all that. -/
def partFile : Node := sampleNode "program" "" (spaceStatement :: toolImports ++ [partFunction])

/-- What the first import brings in. -/
def kitImport : Import := { fqn := "Lib\\Kit", asName := "Tool", line := 1, file := "a.php", explicitAlias := true }

/-- The context of a file alone. -/
def ofTree (root : Node) : Context :=
  { references := Collect.references "a.php" root, imports := [("a.php", Collect.imports "a.php" root)] }

theorem used_import_not_reported_part :
    Collect.InSection partFile (spaceStatement :: toolImports) partFunction ∧ Collect.Inside partFunction partParameter ∧
      Collect.Uses partParameter partName ∧ ¬Collect.Missed partParameter partName ∧
      ∃ found, (ofTree partFile).runRule Rule.imports.label = .ok found ∧
        ∀ i ∈ found, i.file = "a.php" → i.symbol ≠ kitImport.fqn := by
  have within : Collect.InSection partFile (spaceStatement :: toolImports) partFunction := by
    refine ⟨⟨none, partFile, [], [], .root, by decide +kernel, rfl⟩, ?_⟩
    decide +kernel
  have imported : Collect.importsIn "a.php" (spaceStatement :: toolImports) =
      [] ++ kitImport :: (Collect.importsIn "a.php" (spaceStatement :: toolImports)).tail := by decide +kernel
  have latest : ∀ v ∈ (Collect.importsIn "a.php" (spaceStatement :: toolImports)).tail, ¬v.Overrides kitImport := by
    have others : ∀ v ∈ (Collect.importsIn "a.php" (spaceStatement :: toolImports)).tail, v.brings ≠ .classes := by
      decide +kernel
    exact fun v mem overrides => others v mem overrides.1
  have inside : Collect.Inside partFunction partParameter := by
    have parameters : Collect.Inside partFunction partParameters :=
      .child .here ⟨by decide +kernel, by decide +kernel⟩ (List.mem_cons_of_mem _ List.mem_cons_self)
    exact .child parameters ⟨by decide +kernel, by decide +kernel⟩ List.mem_cons_self
  have uses : Collect.Uses partParameter partName := by
    have inner : Collect.NameIn partType partName :=
      .child (by decide +kernel) (by decide +kernel) List.mem_cons_self (.here (by decide +kernel))
    exact .typed (by decide +kernel) rfl (.child (by decide +kernel) (by decide +kernel) List.mem_cons_self inner)
  have seen : ¬Collect.Missed partParameter partName := by
    rintro (⟨-, word⟩ | ⟨kind, -⟩ | ⟨kind, -⟩ | ⟨kind, -⟩)
    · revert word
      decide +kernel
    all_goals
      revert kind
      decide +kernel
  have legal : Name.IsLegal kitImport.asName := ⟨by decide, by decide +kernel⟩
  have first : Text.SameAscii (Name.cutFirst (Name.clean partName.text)).1 kitImport.asName := by
    unfold Text.SameAscii
    decide +kernel
  exact ⟨within, inside, uses, seen, used_import_not_reported (fun r mem => mem) within imported latest rfl (by decide) legal
    inside uses rfl first seen⟩

/-- An import of a class, under the last part of its name or with an alias. -/
def classImport (target : String) (naming : List Node) : Node :=
  sampleNode "namespace_use_declaration" ""
    [sampleNode "namespace_use_clause" "" (sampleNode "qualified_name" target [] :: naming)]

/-- The expression `new` with what stands before its arguments. -/
def creation (operands : List Node) : Node :=
  sampleNode "object_creation_expression" "" (operands ++ [sampleNode "arguments" "" []])

/-- The imports that the rule reports in a file with these statements. -/
def reportedIn (statements : List Node) : List String :=
  (((ofTree (sampleNode "program" "" statements)).runRule Rule.imports.label).toOption.getD []).map (·.symbol)

/-- Imports that are used and reported all the same: a comment after `new`, two aliases that only differ in the case of a
letter beyond Z, an old name of a type, and a member that is computed. -/
theorem used_imports_reported :
    reportedIn [classImport "App\\Foo" [], creation [sampleNode "comment" "/* c */" [], sampleNode "name" "Foo" []]] =
        ["App\\Foo"] ∧
      reportedIn [classImport "App\\Foo" [sampleField "alias" "name" "É" []],
        classImport "App\\Bar" [sampleField "alias" "name" "é" []],
        creation [sampleNode "name" "É" []], creation [sampleNode "name" "é" []]] = ["App\\Foo"] ∧
      reportedIn [classImport "App\\Integer" [], creation [sampleNode "name" "Integer" []]] = ["App\\Integer"] ∧
      reportedIn [classImport "App\\Foo" [], sampleNode "scoped_call_expression" ""
        [sampleField "scope" "name" "Foo" [], sampleField "name" "variable_name" "$m" [sampleNode "name" "m" []],
          sampleField "arguments" "arguments" "" []]] = ["App\\Foo"] := by
  decide +kernel

end Samples

end Context

end DeadCode
