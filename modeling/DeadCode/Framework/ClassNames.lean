import DeadCode.Record.Reference
import DeadCode.Text.Blank
import DeadCode.Text.Classes

/-!
# Class names in configuration

`scan` finds what looks like a class in a namespace, or like a controller with its action, in the lines of a text that
is not code. Backslashes may be written once or twice.
-/

namespace DeadCode.ClassNames
set_option autoImplicit false

/-- One or two backslashes, and what follows them. -/
def separator? : List Char → Option (List Char)
  | '\\' :: '\\' :: c :: rest => if c == '\\' then none else some (c :: rest)
  | '\\' :: c :: rest => if c == '\\' then none else some (c :: rest)
  | _ => none

/-- The further parts of a name, each with one separator before it, and what is left. -/
def partsFrom : Nat → List Char → List Char × List Char
  | 0, s => ([], s)
  | n + 1, s =>
    match separator? s with
    | some (c :: cs) =>
      if Text.isAsciiLetter c || c == '_' then
        let part := c :: cs.takeWhile Text.isAsciiWord
        let more := partsFrom n (cs.dropWhile Text.isAsciiWord)
        ('\\' :: part ++ more.1, more.2)
      else ([], s)
    | _ => ([], s)

/-- A class name with a namespace at the start of a text: it starts with a capital and has two parts at least. -/
def literal? : List Char → Option (List Char × List Char)
  | [] => none
  | c :: cs =>
    if 'A' ≤ c && c ≤ 'Z' then
      let first := c :: cs.takeWhile Text.isAsciiWord
      let rest := cs.dropWhile Text.isAsciiWord
      let more := partsFrom rest.length rest
      if more.1.isEmpty then none else some (first ++ more.1, more.2)
    else none

/-- Everything in a text that a reader of its start finds, from left to right without overlaps. -/
def findAll {α : Type} (read : List Char → Option (α × List Char)) : Nat → List Char → List α
  | 0, _ => []
  | _ + 1, [] => []
  | n + 1, c :: cs =>
    match read (c :: cs) with
    | some (x, rest) => x :: findAll read n rest
    | none => findAll read n cs

/-- Everything that a reader finds in a text. -/
def allIn {α : Type} (read : List Char → Option (α × List Char)) (s : List Char) : List α := findAll read s.length s

/-- Is the character a quotation mark? -/
def isQuote (c : Char) : Bool := c == '\'' || c == '"'

/-- A character of a controller's name. -/
def isControllerChar (c : Char) : Bool := Text.isAsciiWord c || c == '\\'

/-- A controller and its action in quotation marks at the start of a text. -/
def action? : List Char → Option ((List Char × List Char) × List Char)
  | [] => none
  | q :: s =>
    if !isQuote q then none else
    let controller := s.takeWhile isControllerChar
    match s.dropWhile isControllerChar with
    | '@' :: a :: rest =>
      let action := a :: rest.takeWhile Text.isAsciiWord
      match rest.dropWhile Text.isAsciiWord with
      | r :: after =>
        if isQuote r && !controller.isEmpty && (Text.isAsciiLetter a || a == '_') then
          some ((controller, action), after)
        else none
      | [] => none
    | _ => none

/-- The text with each pair of backslashes as one. -/
def single (s : List Char) : String := String.ofList (Text.replaceIn ['\\', '\\'] ['\\'] s)

/-- References in a line: first the classes, then the actions. -/
def scanLine (file source : String) (line : Nat) (s : List Char) : List Reference :=
  (allIn literal? s).map (fun name =>
    { kind := .classString, name := String.ofList name, file, line, context := source }) ++
  (allIn action? s).map fun a =>
    { kind := .methodCall, name := String.ofList a.2, parent := some (Text.trimStart (· == '\\') (single a.1))
      file, line, context := source }

/-- References to the classes that a text names. -/
def scan (text file source : String) : List Reference :=
  ((Text.lines text).zipIdx 1).flatMap fun l => scanLine file source l.2 l.1.toList

end DeadCode.ClassNames
