/-!
# Kinds of symbols and references, and severities

Closed lists of words, each with the label it is written with.
-/

namespace DeadCode
set_option autoImplicit false

/-- Kinds of declarations. -/
inductive SymbolKind where
  | classType
  | interfaceType
  | traitType
  | enumType
  | function
  | method
  | property
  | classConstant
  | globalConstant
  deriving DecidableEq, Repr, Inhabited

namespace SymbolKind

/-- Every kind. -/
def all : List SymbolKind :=
  [classType, interfaceType, traitType, enumType, function, method, property, classConstant, globalConstant]

/-- The written form of a kind. -/
def label : SymbolKind → String
  | classType => "class"
  | interfaceType => "interface"
  | traitType => "trait"
  | enumType => "enum"
  | function => "function"
  | method => "method"
  | property => "property"
  | classConstant => "class-constant"
  | globalConstant => "global-constant"

/-- The kind with this written form. -/
def ofLabel? (s : String) : Option SymbolKind := all.find? (·.label == s)

theorem ofLabel?_label (k : SymbolKind) : ofLabel? k.label = some k := by
  cases k <;> decide

/-- Classes, interfaces, traits and enums. -/
def isClassLike : SymbolKind → Bool
  | classType | interfaceType | traitType | enumType => true
  | _ => false

/-- Kinds that stand outside classes. -/
def isTopLevel : SymbolKind → Bool
  | function | globalConstant => true
  | k => k.isClassLike

end SymbolKind

/-- Kinds of places that name a symbol. -/
inductive ReferenceKind where
  | instantiation
  | extension
  | implementation
  | traitUse
  | importName
  | importAlias
  | staticCall
  | staticProperty
  | functionCall
  | methodCall
  | propertyAccess
  | instanceTest
  | typeHint
  | returnType
  | catchType
  | classConstantAccess
  | classString
  | constant
  deriving DecidableEq, Repr, Inhabited

namespace ReferenceKind

/-- Every kind. -/
def all : List ReferenceKind :=
  [instantiation, extension, implementation, traitUse, importName, importAlias, staticCall, staticProperty,
    functionCall, methodCall, propertyAccess, instanceTest, typeHint, returnType, catchType, classConstantAccess,
    classString, constant]

/-- The written form of a kind. -/
def label : ReferenceKind → String
  | instantiation => "instantiation"
  | extension => "extends"
  | implementation => "implements"
  | traitUse => "use-trait"
  | importName => "import"
  | importAlias => "import-alias"
  | staticCall => "static-call"
  | staticProperty => "static-property"
  | functionCall => "function-call"
  | methodCall => "method-call"
  | propertyAccess => "property-access"
  | instanceTest => "instanceof"
  | typeHint => "type-hint"
  | returnType => "return-type"
  | catchType => "catch"
  | classConstantAccess => "class-constant-access"
  | classString => "class-string"
  | constant => "constant"

/-- The kind with this written form. -/
def ofLabel? (s : String) : Option ReferenceKind := all.find? (·.label == s)

theorem ofLabel?_label (k : ReferenceKind) : ofLabel? k.label = some k := by
  cases k <;> decide

/-- Kinds whose target is a class. -/
def namesClass : ReferenceKind → Bool
  | instantiation | extension | implementation | traitUse | instanceTest | typeHint | returnType | catchType
  | classString => true
  | _ => false

/-- Kinds that name a class as the owner of a member. -/
def namesOwner : ReferenceKind → Bool
  | staticCall | staticProperty | classConstantAccess => true
  | _ => false

/-- Imports. -/
def isImport : ReferenceKind → Bool
  | importName | importAlias => true
  | _ => false

end ReferenceKind

/-- How serious an issue is. -/
inductive Severity where
  | error
  | warning
  | info
  deriving DecidableEq, Repr, Inhabited

namespace Severity

/-- The written form of a severity. -/
def label : Severity → String
  | error => "error"
  | warning => "warning"
  | info => "info"

/-- The severity with this written form. -/
def ofLabel? (s : String) : Option Severity := [error, warning, info].find? (·.label == s)

/-- A number that grows with the severity. -/
def rank : Severity → Nat
  | error => 3
  | warning => 2
  | info => 1

end Severity

end DeadCode
