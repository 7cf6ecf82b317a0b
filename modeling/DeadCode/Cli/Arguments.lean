import DeadCode.Assoc
import DeadCode.Text.Basic

/-!
# Arguments

The words of a command line as options and other words. An option has a long form after two dashes and may have a letter
after one; a value follows it as the next word, after an equals sign, or after the letter at once. Letters may share a dash.
After two dashes alone there are no options.
-/

namespace DeadCode.Cli
set_option autoImplicit false

/-- Why a command line is not understood. -/
inductive UsageError where
  | unknownOption (name : String)
  | missingValue (name : String)
  | unexpectedValue (name : String)
  | badValue (name value : String)
  | unknownRules (names : List String)
  | extraWords (words : List String)
  | missingCommand
  | unknownCommand (name : String)
  deriving DecidableEq, Repr

/-- The wording of the error. -/
def UsageError.message : UsageError → String
  | .unknownOption name => "No such option: " ++ name
  | .missingValue name => "Option '--" ++ name ++ "' requires an argument."
  | .unexpectedValue name => "Option '--" ++ name ++ "' does not take a value."
  | .badValue name value => "Invalid value for '--" ++ name ++ "': " ++ value
  | .unknownRules names => "Unknown rule(s): " ++ Text.join ", " names
  | .extraWords words => "Got unexpected extra argument(s) (" ++ Text.join " " words ++ ")"
  | .missingCommand => "Missing command."
  | .unknownCommand name => "No such command '" ++ name ++ "'."

/-- An option by its name, its letter if it has one, and whether a value follows. -/
structure OptionForm where
  name : String
  letter : Option Char := none
  takesValue : Bool := false
  deriving DecidableEq, Repr

/-- The options of a command line, the last one of each name, and its other words. -/
structure Arguments where
  options : List (String × String) := []
  words : List String := []
  deriving DecidableEq, Inhabited, Repr

namespace Arguments

/-- The value of an option. -/
def value? (a : Arguments) (name : String) : Option String := Assoc.get? a.options name

/-- Is the option there? -/
def has (a : Arguments) (name : String) : Bool := Assoc.has a.options name

/-- The arguments with one more option. -/
def give (a : Arguments) (name value : String) : Arguments := { a with options := Assoc.set a.options name value }

/-- Reads the letters after a dash. An option that ends them may still wait for its value. -/
def readLetters (forms : List OptionForm) (a : Arguments) : List Char → Except UsageError (Arguments × Option String)
  | [] => .ok (a, none)
  | c :: cs =>
    match forms.find? (·.letter == some c) with
    | none => .error (.unknownOption ("-" ++ String.singleton c))
    | some f =>
      if !f.takesValue then readLetters forms (a.give f.name "") cs
      else if cs.isEmpty then .ok (a, some f.name)
      else .ok (a.give f.name (String.ofList cs), none)

/-- Reads what stands after two dashes. -/
def readLong (forms : List OptionForm) (a : Arguments) (cs : List Char) : Except UsageError (Arguments × Option String) :=
  let name := cs.takeWhile (· != '=')
  match forms.find? (·.name.toList == name), cs.drop name.length with
  | none, _ => .error (.unknownOption ("--" ++ String.ofList name))
  | some f, _ :: value =>
    if f.takesValue then .ok (a.give f.name (String.ofList value), none) else .error (.unexpectedValue f.name)
  | some f, [] => if f.takesValue then .ok (a, some f.name) else .ok (a.give f.name "", none)

/-- Reads words after those that are read. The option in `waiting` takes the next word. Unless words and options may be
mixed, there are no options after the first word. -/
def readFrom (forms : List OptionForm) (mixed : Bool) (a : Arguments) (waiting : Option String) :
    List String → Except UsageError Arguments
  | [] =>
    match waiting with
    | some name => .error (.missingValue name)
    | none => .ok a
  | w :: ws =>
    match waiting with
    | some name => readFrom forms mixed (a.give name w) none ws
    | none =>
      match w.toList with
      | ['-', '-'] => .ok { a with words := a.words ++ ws }
      | '-' :: '-' :: cs => do
        let (a, waiting) ← readLong forms a cs
        readFrom forms mixed a waiting ws
      | '-' :: c :: cs => do
        let (a, waiting) ← readLetters forms a (c :: cs)
        readFrom forms mixed a waiting ws
      | _ =>
        if mixed then readFrom forms mixed { a with words := a.words ++ [w] } none ws
        else .ok { a with words := a.words ++ w :: ws }

/-- Reads a command line. -/
def read (forms : List OptionForm) (mixed : Bool) (ws : List String) : Except UsageError Arguments :=
  readFrom forms mixed {} none ws

end Arguments
end DeadCode.Cli
