import DeadCode.Json.Basic
import DeadCode.Text.Quoted

/-!
# Data values in messages

How a value is shown inside a message: texts between quotes, and the words `None`, `True` and `False`.
-/

namespace DeadCode.Json
set_option autoImplicit false

mutual

/-- The value as it is shown inside another one. -/
def shown : Json → String
  | .null => "None"
  | .bool b => if b then "True" else "False"
  | .int n => toString n
  | .real .undefined => "nan"
  | .real (.infinite neg) => if neg then "-inf" else "inf"
  | .real d => d.render
  | .str s => Text.quoted s
  | .arr xs => "[" ++ Text.join ", " (shownItems xs) ++ "]"
  | .obj ms => "\x7b" ++ Text.join ", " (shownMembers ms) ++ "\x7d"

/-- The items of an array as they are shown. -/
def shownItems : List Json → List String
  | [] => []
  | x :: xs => shown x :: shownItems xs

/-- The members of an object as they are shown. -/
def shownMembers : List (String × Json) → List String
  | [] => []
  | (k, v) :: ms => (Text.quoted k ++ ": " ++ shown v) :: shownMembers ms

end

/-- The value as a message of its own: a text stands without quotes. -/
def display : Json → String
  | .str s => s
  | j => shown j

end DeadCode.Json
