import DeadCode.Assoc
import DeadCode.Decimal
import DeadCode.Text.Blank

/-!
# Structured data values

Values of the JSON data format. Objects keep their members in the order of first insertion.
-/

namespace DeadCode
set_option autoImplicit false

/-- A value of the data format. -/
inductive Json where
  | null
  | bool (b : Bool)
  | int (n : Int)
  | real (d : Decimal)
  | str (s : String)
  | arr (items : List Json)
  | obj (members : List (String × Json))
  deriving Inhabited, Repr

namespace Json

mutual

/-- Are the values the same? Objects are if they have the same members in the same order. -/
def same : Json → Json → Bool
  | .null, .null => true
  | .bool a, .bool b => a == b
  | .int a, .int b => a == b
  | .real a, .real b => a == b
  | .str a, .str b => a == b
  | .arr xs, .arr ys => sameItems xs ys
  | .obj ms, .obj ns => sameMembers ms ns
  | _, _ => false

/-- Are the items the same, one by one? -/
def sameItems : List Json → List Json → Bool
  | [], [] => true
  | x :: xs, y :: ys => same x y && sameItems xs ys
  | _, _ => false

/-- Are the members the same, one by one? -/
def sameMembers : List (String × Json) → List (String × Json) → Bool
  | [], [] => true
  | (k, x) :: ms, (l, y) :: ns => k == l && same x y && sameMembers ms ns
  | _, _ => false

end

instance : BEq Json := ⟨same⟩

/-- The member of an object with this key. -/
def get? : Json → String → Option Json
  | .obj ms, k => Assoc.get? ms k
  | _, _ => none

/-- The members of an object; none of another value. -/
def members : Json → List (String × Json)
  | .obj ms => ms
  | _ => []

/-- The items of an array; none of another value. -/
def items : Json → List Json
  | .arr xs => xs
  | _ => []

/-- The text, if the value is one. -/
def str? : Json → Option String
  | .str s => some s
  | _ => none

/-- The integer, if the value is one. -/
def int? : Json → Option Int
  | .int n => some n
  | _ => none

/-- Is the value an object? -/
def isObj : Json → Bool
  | .obj _ => true
  | _ => false

/-- Everything counts as set but null, false, zero and the empty text, array and object. -/
def isSet : Json → Bool
  | .null => false
  | .bool b => b
  | .int n => n ≠ 0
  | .real d => !d.isZero
  | .str s => !s.isEmpty
  | .arr xs => !xs.isEmpty
  | .obj ms => !ms.isEmpty

/-- The texts of an array; other items are left out. -/
def strings (j : Json) : List String := j.items.filterMap str?

/-- What a walk through a value passes: the elements of a list, the characters of a text or the keys of an object. -/
def elements? : Json → Option (List Json)
  | .arr xs => some xs
  | .str s => some (s.toList.map fun c => .str (String.singleton c))
  | .obj ms => some (ms.map fun m => .str m.1)
  | _ => none

/-- Can the value be a key of a table? -/
def isKey : Json → Bool
  | .arr _ => false
  | .obj _ => false
  | _ => true

/-- An array of texts. -/
def ofStrings (xs : List String) : Json := .arr (xs.map .str)

/-- A text, or null. -/
def ofOption : Option String → Json
  | some s => .str s
  | none => .null

end Json
end DeadCode
