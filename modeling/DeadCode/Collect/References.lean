import DeadCode.Collect.Walk
import DeadCode.Record.Reference

/-!
# References of a file

Every place where a syntax tree names a class, a function, a member or a constant, in document order. Names that are
built at run time give dynamic references.
-/

namespace DeadCode.Collect
set_option autoImplicit false

/-- The name of a reference whose target is computed at run time. -/
def dynamicName : String := "(dynamic)"

/-- Nodes whose direct child names are constants. -/
def expressionParents : List String := [
  "argument", "arguments", "binary_expression", "unary_op_expression", "assignment_expression",
  "augmented_assignment_expression", "reference_assignment_expression", "echo_statement", "return_statement",
  "parenthesized_expression", "array_element_initializer", "conditional_expression", "expression_statement",
  "subscript_expression", "match_condition_list", "match_conditional_expression", "case_statement",
  "sequence_expression", "print_intrinsic", "yield_expression", "cast_expression", "const_element", "property_element",
  "property_initializer", "simple_parameter", "property_promotion_parameter", "static_variable_declaration",
  "variadic_unpacking", "throw_expression", "exit_statement", "enum_case"]

mutual

/-- The class names inside a type. -/
def typeNames : Node → List Node
  | .mk i cs =>
    let n := Node.mk i cs
    if n.kind == "primitive_type" then []
    else if n.isName then [n]
    else typeNamesOf cs

/-- The class names inside the named ones of several nodes. -/
def typeNamesOf : List Node → List Node
  | [] => []
  | c :: cs => (if c.info.named then typeNames c else []) ++ typeNamesOf cs

end

/-- The class names inside a type that may be absent. -/
def typeNames? (n : Option Node) : List Node := (n.map typeNames).getD []

/-- A reference at a node in a scope. -/
def referenceAt (file : String) (scope : Scope) (kind : ReferenceKind) (name : String) (at_ : Node)
    (parent : Option String) (isDynamic : Bool) (asName : Option String) : Reference :=
  { kind, name, parent, file, line := at_.line, context := scope.context, isDynamic, asName
    enclosing := scope.currentClass }

/-- A reference to a known name. -/
def named (file : String) (v : Visit) (kind : ReferenceKind) (name : String) (parent : Option String) : Reference :=
  referenceAt file v.scope kind name v.node parent false none

/-- A reference to a name computed at run time. -/
def dynamic (file : String) (v : Visit) (kind : ReferenceKind) (parent : Option String) : Reference :=
  referenceAt file v.scope kind dynamicName v.node parent true none

/-- A reference to a class, unless the name is empty or a type of the language. -/
def classReference (file : String) (scope : Scope) (kind : ReferenceKind) (name : Node) : List Reference :=
  if name.text.isEmpty || Name.isBuiltinType name.text then []
  else [referenceAt file scope kind (scope.resolveClass name.text) name none false none]

/-- References to the classes that are named directly below a node. -/
def clauseReferences (file : String) (v : Visit) (kind : ReferenceKind) : List Reference :=
  v.node.nameChildren.flatMap (classReference file v.scope kind)

/-- The class on the left of a double colon, if it is a name. -/
def classOperand (scope : Scope) (n : Option Node) : Option String :=
  n.bind fun n =>
    let raw := Name.clean n.text
    if n.isName || n.kind == "relative_scope" || Name.isRelative raw then some (scope.resolveClass raw) else none

/-- References of an import. -/
def importReferences (file : String) (v : Visit) : List Reference :=
  (importsOf v.node file).map fun u =>
    referenceAt file v.scope (if u.explicitAlias then .importAlias else .importName) u.fqn v.node none false
      (some u.asName)

/-- References of a `new` expression. -/
def newReferences (file : String) (v : Visit) : List Reference :=
  let n := v.node
  if n.isAnonymousClass || n.children.any (·.kind == "anonymous_class") then [] else
  match n.namedChildren.find? fun c => c.kind != "arguments" && c.kind != "attribute_list" with
  | none => []
  | some target =>
    if Name.isRelative (Name.clean target.text) then []
    else if target.isName then classReference file v.scope .instantiation target
    else [dynamic file v .instantiation none]

/-- The reference of a member named in the field `name`, which has to be a node of the kind given. -/
def memberReference (file : String) (v : Visit) (kind : ReferenceKind) (parent : Option String) (nameKind : String) :
    List Reference :=
  match v.node.child? "name" with
  | some name =>
    if name.kind == nameKind then [named file v kind (Text.trimStart (fun c => nameKind != "name" && c == '$') name.text) parent]
    else [dynamic file v kind parent]
  | none => [dynamic file v kind parent]

/-- References of a class constant or of the name of a class. -/
def classConstantReferences (file : String) (v : Visit) : List Reference :=
  match v.node.namedChildren with
  | scopeNode :: c :: cs =>
    let constant := ((c :: cs).getLast (by simp)).text
    if Text.lower constant == "class" then
      let raw := Name.clean scopeNode.text
      if scopeNode.isName && !Name.isRelative raw then
        [named file v .classString (v.scope.resolveClass raw) none]
      else []
    else [named file v .classConstantAccess constant (classOperand v.scope (some scopeNode))]
  | _ => []

/-- References of a function call. A call of `define` is a declaration. -/
def functionCallReferences (file : String) (v : Visit) : List Reference :=
  match v.node.child? "function" with
  | none => []
  | some f =>
    if !f.isName then [dynamic file v .functionCall none]
    else
      let raw := Name.clean f.text
      if Text.lower (Name.unrooted raw) == "define" then []
      else [named file v .functionCall (v.scope.resolveFunction raw) none]

/-- The class at hand, if a member is looked up in `$this`. -/
def thisClass (v : Visit) : Option String :=
  match v.node.child? "object" with
  | some o => if o.text == "$this" then v.scope.currentClass else none
  | none => none

/-- Is the operator of a binary expression the test for a class? -/
def isInstanceTest (n : Node) : Bool :=
  match n.child? "operator" with
  | some o => Text.lower o.text == "instanceof"
  | none => false

/-- References of a test for a class. -/
def instanceTestReferences (file : String) (v : Visit) : List Reference :=
  if !isInstanceTest v.node then [] else
  match v.node.child? "right" with
  | none => []
  | some right =>
    if Name.isRelative (Name.clean right.text) then []
    else if right.isName then classReference file v.scope .instanceTest right
    else [dynamic file v .instanceTest none]

/-- References of a catch clause. -/
def catchReferences (file : String) (v : Visit) : List Reference :=
  let types := (v.node.child? "type").or (v.node.namedChildren.find? (·.kind == "type_list"))
  (typeNames? types).flatMap (classReference file v.scope .catchType)

/-- Is a name that stands below `parent` the name of a constant there? Declared names, labels of arguments, types of
parameters and operands of a class test are none. -/
def isConstantPlace (v : Visit) (parent : Node) : Bool :=
  expressionParents.contains parent.kind &&
    !((parent.kind == "const_element" || parent.kind == "enum_case") && v.isFirstNamed) &&
    !(parent.kind == "argument" && v.isField "name") &&
    !((parent.kind == "simple_parameter" || parent.kind == "property_promotion_parameter") &&
      !v.isField "default_value") &&
    !(parent.kind == "binary_expression" && isInstanceTest parent)

/-- The reference of a name that stands for a constant. -/
def constantReferences (file : String) (v : Visit) : List Reference :=
  match v.parent? with
  | none => []
  | some parent =>
    if isConstantPlace v parent then
      let raw := Name.clean v.node.text
      let bare := Name.unrooted raw
      if bare.isEmpty || Name.isBuiltinType bare || Name.isMagicConstant bare then []
      else [named file v .constant (v.scope.resolveConstant raw) none]
    else []

/-- The references that one node gives. -/
def referencesAt (file : String) (v : Visit) : List Reference :=
  let n := v.node
  match n.kind with
  | "namespace_use_declaration" => importReferences file v
  | "base_clause" => clauseReferences file v .extension
  | "class_interface_clause" => clauseReferences file v .implementation
  | "use_declaration" => clauseReferences file v .traitUse
  | "object_creation_expression" => newReferences file v
  | "scoped_call_expression" => memberReference file v .staticCall (classOperand v.scope (n.child? "scope")) "name"
  | "class_constant_access_expression" => classConstantReferences file v
  | "scoped_property_access_expression" =>
    memberReference file v .staticProperty (classOperand v.scope (n.child? "scope")) "variable_name"
  | "function_call_expression" => functionCallReferences file v
  | "member_call_expression" | "nullsafe_member_call_expression" => memberReference file v .methodCall (thisClass v) "name"
  | "member_access_expression" | "nullsafe_member_access_expression" =>
    memberReference file v .propertyAccess (thisClass v) "name"
  | "binary_expression" => instanceTestReferences file v
  | "catch_clause" => catchReferences file v
  | "simple_parameter" | "variadic_parameter" | "property_promotion_parameter" | "property_declaration" =>
    (typeNames? (n.child? "type")).flatMap (classReference file v.scope .typeHint)
  | "function_definition" | "method_declaration" | "anonymous_function" | "anonymous_function_creation_expression"
  | "arrow_function" => (typeNames? (n.child? "return_type")).flatMap (classReference file v.scope .returnType)
  | "attribute" => (n.nameChildren.head?.map (classReference file v.scope .instantiation)).getD []
  | "name" | "qualified_name" => constantReferences file v
  | _ => []

/-- The references of a tree. -/
def references (file : String) (root : Node) : List Reference := (visits file root).flatMap (referencesAt file)

/-- The imports of a tree. -/
def imports (file : String) (root : Node) : List Import :=
  (visits file root).flatMap fun v =>
    if v.node.kind == "namespace_use_declaration" then importsOf v.node file else []

end DeadCode.Collect
