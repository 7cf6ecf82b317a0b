import DeadCode.Text.Basic

/-!
# XML elements

An element with attributes and either a text or elements inside it, written with two blanks of indentation a level. An
element without content is written as one tag.
-/

namespace DeadCode.Markup
set_option autoImplicit false

/-- An element. -/
inductive Element where
  | node (tag : String) (attributes : List (String × String)) (text : String) (children : List Element)
  deriving Inhabited, Repr

/-- An element with a text. -/
def Element.leaf (tag : String) (attributes : List (String × String)) (text : String) : Element := .node tag attributes text []

/-- An element around others. -/
def Element.around (tag : String) (attributes : List (String × String)) (children : List Element) : Element :=
  .node tag attributes "" children

/-- One character of a text. -/
def textChar (c : Char) : List Char :=
  if c == '&' then "&amp;".toList else if c == '<' then "&lt;".toList else if c == '>' then "&gt;".toList else [c]

/-- One character of an attribute. Line ends and tabs are kept from being read as blanks. -/
def attributeChar (c : Char) : List Char :=
  if c == '"' then "&quot;".toList
  else if c == '\r' then "&#13;".toList
  else if c == '\n' then "&#10;".toList
  else if c == '\t' then "&#09;".toList
  else textChar c

/-- A text with its characters escaped. -/
def escape (char : Char → List Char) (s : String) : String := String.ofList (s.toList.flatMap char)

/-- The attributes of a tag. -/
def attributeText (as : List (String × String)) : String :=
  String.join (as.map fun a => " " ++ a.1 ++ "=\"" ++ escape attributeChar a.2 ++ "\"")

/-- A line end and the indentation of a level. -/
def lineBreak (level : Nat) : String := "\n" ++ String.ofList (List.replicate (2 * level) ' ')

mutual

/-- The element at a level of indentation. -/
def Element.renderAt (level : Nat) : Element → String
  | .node tag attributes text [] =>
    let opened := "<" ++ tag ++ attributeText attributes
    if text.isEmpty then opened ++ " />" else opened ++ ">" ++ escape textChar text ++ "</" ++ tag ++ ">"
  | .node tag attributes _ (e :: es) =>
    "<" ++ tag ++ attributeText attributes ++ ">" ++ renderEach (level + 1) (e :: es) ++ lineBreak level ++ "</" ++ tag ++ ">"

/-- Elements, each on a line of its own. -/
def renderEach (level : Nat) : List Element → String
  | [] => ""
  | e :: es => lineBreak level ++ e.renderAt level ++ renderEach level es

end

/-- A document with the element as its root. -/
def Element.document (e : Element) : String := "<?xml version=\"1.0\" encoding=\"UTF-8\"?>\n" ++ e.renderAt 0

end DeadCode.Markup
