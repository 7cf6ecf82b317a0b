import DeadCode.Json.Basic
import DeadCode.Text.Quoted

/-!
# Writing data values

Two layouts: `compact` on one line with a blank after each comma and colon, and `indented` with one item a line and two
blanks of indentation a level. Characters beyond ASCII are written as they are.
-/

namespace DeadCode.Json
set_option autoImplicit false

/-- One character of a text. -/
def writeChar (c : Char) : List Char :=
  if c == '"' then ['\\', '"']
  else if c == '\\' then ['\\', '\\']
  else if c == '\n' then ['\\', 'n']
  else if c == '\r' then ['\\', 'r']
  else if c == '\t' then ['\\', 't']
  else if c == '\x0c' then ['\\', 'f']
  else if c == '\x08' then ['\\', 'b']
  else if c.toNat < 0x20 then '\\' :: 'u' :: Text.hexPadded 4 c.toNat
  else [c]

/-- A text between double quotes. -/
def writeText (s : String) : String := "\"" ++ String.ofList (s.toList.flatMap writeChar) ++ "\""

mutual

/-- The value on one line. -/
def compact : Json → String
  | .null => "null"
  | .bool b => if b then "true" else "false"
  | .int n => toString n
  | .real d => d.render
  | .str s => writeText s
  | .arr xs => "[" ++ Text.join ", " (compactItems xs) ++ "]"
  | .obj ms => "\x7b" ++ Text.join ", " (compactMembers ms) ++ "\x7d"

/-- The items of an array on one line. -/
def compactItems : List Json → List String
  | [] => []
  | x :: xs => compact x :: compactItems xs

/-- The members of an object on one line. -/
def compactMembers : List (String × Json) → List String
  | [] => []
  | (k, v) :: ms => (writeText k ++ ": " ++ compact v) :: compactMembers ms

end

/-- A line feed and the indentation of a level. -/
def newline (level : Nat) : String := "\n" ++ String.ofList (List.replicate (2 * level) ' ')

mutual

/-- The value with one item a line, at a level of indentation. -/
def indentedAt (level : Nat) : Json → String
  | .arr [] => "[]"
  | .obj [] => "\x7b\x7d"
  | .arr (x :: xs) =>
    "[" ++ Text.join "," (indentedItems (level + 1) (x :: xs)) ++ newline level ++ "]"
  | .obj (m :: ms) =>
    "\x7b" ++ Text.join "," (indentedMembers (level + 1) (m :: ms)) ++ newline level ++ "\x7d"
  | .null => "null"
  | .bool b => if b then "true" else "false"
  | .int n => toString n
  | .real d => d.render
  | .str s => writeText s

/-- The items of an array, each on its own line. -/
def indentedItems (level : Nat) : List Json → List String
  | [] => []
  | x :: xs => (newline level ++ indentedAt level x) :: indentedItems level xs

/-- The members of an object, each on its own line. -/
def indentedMembers (level : Nat) : List (String × Json) → List String
  | [] => []
  | (k, v) :: ms => (newline level ++ writeText k ++ ": " ++ indentedAt level v) :: indentedMembers level ms

end

/-- The value with one item a line. -/
def indented (j : Json) : String := indentedAt 0 j

end DeadCode.Json
