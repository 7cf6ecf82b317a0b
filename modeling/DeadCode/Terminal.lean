import DeadCode.Text.Case

/-!
# Terminals

What a terminal can show. One that is not in UTF-8 gets plain words and signs for icons.
-/

namespace DeadCode
set_option autoImplicit false

/-- A terminal, by the encoding that it tells; the empty text stands for none. -/
structure Terminal where
  told : String := ""
  deriving DecidableEq, Repr

namespace Terminal

/-- The encoding in small letters. A terminal that tells none is in UTF-8. -/
def encoding (t : Terminal) : String := if t.told.isEmpty then "utf-8" else Text.lower t.told

/-- Can the terminal show every character? -/
def isUtf8 (t : Terminal) : Bool := ["utf-8", "utf8"].contains (Text.replace "_" "-" t.encoding)

/-- Icons with the plain form of each. -/
def icons : List (String × String) := [
  ("✓", "[OK]"), ("✔", "[OK]"), ("✗", "[FAIL]"), ("✘", "[FAIL]"), ("⚠", "[WARN]"), ("→", "->"), ("←", "<-"), ("…", "..."),
  ("•", "*"), ("─", "-"), ("│", "|")]

/-- A text as the terminal can show it. -/
def shown (t : Terminal) (s : String) : String :=
  if t.isUtf8 then s else icons.foldl (fun s icon => Text.replace icon.1 icon.2 s) s

/-- The animation that stands before running work. -/
def spinner (t : Terminal) : String := if t.isUtf8 then "dots" else "line"

end Terminal
end DeadCode
