import DeadCode.Framework.FileScope
import DeadCode.Json.Whole
import DeadCode.Text.Pattern

/-!
# Callbacks by name

Registrations of callbacks, as in `add_action('init', 'boot')`: the callback stands at a fixed place among the arguments,
as a function name or as a pair of a class and a method. Classes can also be handed to a registrar of commands.
-/

namespace DeadCode.Hooks
set_option autoImplicit false

open Text Text.Pattern

/-- Functions with the place of their callback, counted from one: in order of name if places are given, otherwise all at
the second. -/
def places (functions : Json) : Except WholeError (List (String × Int)) :=
  match functions with
  | .obj ms => do
    let ps ← ms.mapM fun m => return (m.1, ← m.2.toWhole)
    return ps.mergeSort fun a b => decide (a.1 ≤ b.1)
  | .str s => .ok (s.toList.map fun c => (String.singleton c, 2))
  | v => .ok (v.strings.map fun n => (n, 2))

/-- A quotation mark. -/
def quote : Pattern := one fun c => c == '\'' || c == '"'

/-- A character that is no quotation mark. -/
def unquoted : Pattern := one fun c => c != '\'' && c != '"'

/-- A word that starts with a letter. -/
def identifier : Pattern := seq (one fun c => isWord c && !isDigit c) (many (one isWord))

/-- A name with backslashes in it. -/
def qualified : Pattern :=
  inOrder [upTo 2 (text "\\"), one fun c => isWord c && !isDigit c, many (one fun c => isWord c || c == '\\')]

/-- One argument: a quoted text, a simple call, or an expression without commas and brackets. -/
def argument : Pattern := oneOf [
  inOrder [quote, many unquoted, quote],
  inOrder [many1 (one isWord), gap, text "(", many (one fun c => c != '(' && c != ')'), text ")"],
  (let plain := one fun c => c != ',' && c != '(' && c != ')' && c != '\'' && c != '"'
   seq plain (manyLazy plain))]

/-- A pair of a class, or the object at hand, and a method. -/
def pair : Pattern := inOrder [
  oneOf [inOrder [text "array", gap, text "("], text "["], gap,
  oneOf [
    keep "this" (oneOf [text "$this", text "__CLASS__", text "self::class", text "static::class"]),
    inOrder [quote, keep "class_string" qualified, quote],
    seq (keep "class_constant" qualified) (text "::class")],
  gap, text ",", gap, quote, keep "method" identifier, quote, gap, one fun c => c == ')' || c == ']']

/-- The arguments before the callback. A place before the first is no place. -/
def skipped (place : Int) : Pattern :=
  let skip := inOrder [argument, gap, text ",", gap]
  if 1 ≤ place then times (place - 1).toNat skip else seq skip (text ("\x7b" ++ toString (place - 1) ++ "\x7d"))

/-- The places in order, each with the functions that have their callback there. -/
def byPlace (ps : List (String × Int)) : List (Int × List String) :=
  let keys := (ps.map (·.2)).eraseDups.mergeSort fun a b => decide (a ≤ b)
  keys.map fun k => (k, (ps.filter (·.2 == k)).map (·.1))

/-- A call of one of the functions up to its callback, and the callback. -/
def callbackPattern (ps : List (String × Int)) : Pattern :=
  let calls := (byPlace ps).map fun e => inOrder [oneOf (e.2.map text), gap, text "(", gap, skipped e.1]
  inOrder [wordEdge, oneOf calls, oneOf [inOrder [quote, keep "function" qualified, quote], pair]]

/-- A call of one of the registrars of commands, with the class that it is given. -/
def commandPattern (names : List String) : Pattern := inOrder [
  notAfter fun c => isWord c || c == '\\', oneOf (names.map text), gap, text "(", gap, quote, many unquoted, quote, gap,
  text ",", gap,
  oneOf [
    inOrder [quote, keep "class_string" qualified, quote],
    seq (keep "class_constant" qualified) (text "::class")]]

/-- A quoted name: it is a full one. -/
def fullName (s : String) : String := Text.trimStart (· == '\\') (ClassNames.single s.toList)

/-- The class that a match names. -/
def className (scope : Scope) (m : Spot) : String :=
  match m.part? "class_string" with
  | some s => fullName s
  | none => scope.resolveClass ((m.part? "class_constant").getD "")

/-- The reference to a callback. -/
def callbackReference (scope : Scope) (file source : String) (m : Spot × Spot) : Reference :=
  let method := (m.2.part? "method").getD ""
  let line := m.1.line
  match m.2.part? "function" with
  | some f => { kind := .functionCall, name := fullName f, file, line, context := source }
  | none =>
    if (m.2.part? "this").isSome then { kind := .methodCall, name := method, file, line, context := source }
    else { kind := .staticCall, name := method, parent := some (className scope m.2), file, line, context := source }

/-- References to the callbacks and commands that a text registers. -/
def scan (text file : String) (functions : Json) (commands : List String) (source : String) :
    Except WholeError (List Reference) := do
  let ps ← places functions
  let scope := FileScope.ofText text
  let s := text.toList
  let callbacks := if ps.isEmpty then [] else (callbackPattern ps).matchesIn s
  let registered := if commands.isEmpty then [] else (commandPattern commands).matchesIn s
  return callbacks.map (callbackReference scope file source) ++ registered.map fun m =>
    { kind := .classString, name := className scope m.2, file, line := m.1.line, context := source }

end DeadCode.Hooks
