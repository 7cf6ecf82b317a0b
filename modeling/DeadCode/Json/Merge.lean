import DeadCode.Json.Basic

/-!
# Merging data objects

An object laid over another one: members of both that are objects are merged in turn, and every other member of the upper
object takes the place of the lower one.
-/

namespace DeadCode.Json
set_option autoImplicit false

mutual

/-- A value laid over what may stand at its place. -/
def mergeValue : Option Json → Json → Json
  | some (.obj lower), .obj upper => .obj (mergeMembers lower upper)
  | _, v => v

/-- The members of an object laid over those of another one. -/
def mergeMembers (lower : List (String × Json)) : List (String × Json) → List (String × Json)
  | [] => lower
  | (k, v) :: upper => mergeMembers (Assoc.set lower k (mergeValue (Assoc.get? lower k) v)) upper

end

/-- A value laid over another one. -/
def merge (lower upper : Json) : Json := mergeValue (some lower) upper

end DeadCode.Json
