import DeadCode.Assoc
import DeadCode.Text.Blank

/-!
# Environment files

A file of variables, one on a line: a name, an equals sign and a value. Values may stand between quotes, and a later value
takes the place of an earlier one. A variable in braces after a dollar sign stands for its value. Lines that cannot be read
are passed over.
-/

namespace DeadCode.EnvFile
set_option autoImplicit false

/-- Blanks that do not end a line. -/
def isGap (c : Char) : Bool := Text.isBlank c && c != '\r' && c != '\n'

/-- Does the character end a line? -/
def isBreak (c : Char) : Bool := c == '\r' || c == '\n'

/-- What follows the line at hand. -/
def afterLine (cs : List Char) : List Char := (cs.dropWhile fun c => !isBreak c).drop 1

/-- What follows a line of which only blanks are left. -/
def lineEnd? (cs : List Char) : Option (List Char) :=
  match cs.dropWhile isGap with
  | '\r' :: '\n' :: rest => some rest
  | '\n' :: rest => some rest
  | '\r' :: rest => some rest
  | [] => some []
  | _ => none

/-- The text up to the closing quote and what follows it. A quote after a backslash does not close unless there is no
other. -/
def quoted? (quote : Char) : List Char → Option (List Char × List Char)
  | [] => none
  | [c] => if c == quote then some ([], []) else none
  | c :: d :: cs =>
    if c == '\\' && d == quote then
      match quoted? quote cs with
      | some (text, rest) => some ('\\' :: quote :: text, rest)
      | none => some (['\\'], cs)
    else if c == quote then some ([], d :: cs)
    else (quoted? quote (d :: cs)).map fun p => (c :: p.1, p.2)

/-- Escapes between single quotes. -/
def singleEscapes : List (Char × Char) := [('\\', '\\'), ('\'', '\'')]

/-- Escapes between double quotes. -/
def doubleEscapes : List (Char × Char) :=
  singleEscapes ++ [('"', '"'), ('a', '\x07'), ('b', '\x08'), ('f', '\x0c'), ('n', '\n'), ('r', '\r'), ('t', '\t'),
    ('v', '\x0b')]

/-- A text with its escapes replaced. -/
def unescape (escapes : List (Char × Char)) : List Char → List Char
  | '\\' :: c :: cs =>
    match escapes.lookup c with
    | some d => d :: unescape escapes cs
    | none => '\\' :: unescape escapes (c :: cs)
  | c :: cs => c :: unescape escapes cs
  | [] => []

/-- A text up to the blanks before a number sign. -/
def withoutComment : List Char → List Char
  | [] => []
  | c :: cs =>
    if Text.isBlank c && (cs.dropWhile Text.isBlank).head? == some '#' then [] else c :: withoutComment cs

/-- The value at the front and what follows it. -/
def value? (cs : List Char) : Option (List Char × List Char) :=
  match cs with
  | '\'' :: rest => (quoted? '\'' rest).map fun p => (unescape singleEscapes p.1, p.2)
  | '"' :: rest => (quoted? '"' rest).map fun p => (unescape doubleEscapes p.1, p.2)
  | _ =>
    let line := cs.takeWhile fun c => !isBreak c
    some (Text.dropTrailing Text.isBlank (withoutComment line), cs.drop line.length)

/-- What follows the word `export` with blanks after it. -/
def afterExport (cs : List Char) : List Char :=
  match Text.dropPrefix? "export".toList cs with
  | some rest => if (rest.head?.map isGap).getD false then rest.dropWhile isGap else cs
  | none => cs

/-- The name at the front, none at a comment, and what follows it. -/
def key? (cs : List Char) : Option (Option String × List Char) :=
  match cs with
  | '#' :: _ => some (none, cs)
  | '\'' :: rest =>
    let name := rest.takeWhile (· != '\'')
    match name, rest.drop name.length with
    | _ :: _, _ :: after => some (some (String.ofList name), after)
    | _, _ => none
  | _ =>
    let name := cs.takeWhile fun c => c != '=' && c != '#' && !Text.isBlank c
    if name.isEmpty then none else some (some (String.ofList name), cs.drop name.length)

/-- A name, and a value if there is one. -/
abbrev Binding := String × Option String

/-- The outcome of reading a line. `stuck` says where reading stopped. -/
inductive Line where
  | read (binding : Option Binding) (rest : List Char)
  | stuck (rest : List Char)

/-- The comment at the front left out. -/
def afterComment (cs : List Char) : List Char :=
  match cs.dropWhile isGap with
  | '#' :: rest => rest.dropWhile fun c => !isBreak c
  | _ => cs

/-- A binding with the end of its line. -/
def closed (key : Option String) (value : Option String) (cs : List Char) : Line :=
  let cs := afterComment cs
  match lineEnd? cs with
  | some rest => .read (key.map fun k => (k, value)) rest
  | none => .stuck cs

/-- Reads a line. -/
def line (cs : List Char) : Line :=
  let cs := afterExport (cs.dropWhile Text.isBlank)
  match key? cs with
  | none => if cs.isEmpty then .read none [] else .stuck cs
  | some (key, cs) =>
    match cs.dropWhile isGap with
    | '=' :: rest =>
      let cs := rest.dropWhile isGap
      match value? cs with
      | some (value, cs) => closed key (some (String.ofList value)) cs
      | none => .stuck cs
    | cs => closed key none cs

/-- The bindings of a text, of at most the given number of lines. -/
def bindingsFrom : Nat → List Char → List Binding
  | 0, _ => []
  | _ + 1, [] => []
  | n + 1, cs =>
    match line cs with
    | .read (some b) rest => b :: bindingsFrom n rest
    | .read none rest => bindingsFrom n rest
    | .stuck rest => bindingsFrom n (afterLine rest)

/-- The bindings of a text. -/
def bindings (s : String) : List Binding := bindingsFrom (s.length + 1) s.toList

/-- The variable in braces at the front, with its default, and what follows it. -/
def braced? (cs : List Char) : Option (List Char × List Char × List Char) :=
  let name := cs.takeWhile fun c => c != '\x7d' && c != ':'
  match cs.drop name.length with
  | '\x7d' :: rest => some (name, [], rest)
  | ':' :: '-' :: more =>
    let default := more.takeWhile (· != '\x7d')
    match more.drop default.length with
    | _ :: rest => some (name, default, rest)
    | [] => none
  | _ => none

/-- A text with its variables replaced, in at most the given number of steps. -/
def expandFrom (lookup : String → Option String) : Nat → List Char → List Char
  | 0, cs => cs
  | _ + 1, [] => []
  | n + 1, '$' :: '\x7b' :: cs =>
    match braced? cs with
    | some (name, default, rest) =>
      ((lookup (String.ofList name)).map String.toList).getD default ++ expandFrom lookup n rest
    | none => '$' :: expandFrom lookup n ('\x7b' :: cs)
  | n + 1, c :: cs => c :: expandFrom lookup n cs

/-- A text with its variables replaced. -/
def expand (lookup : String → Option String) (s : String) : String :=
  String.ofList (expandFrom lookup s.length s.toList)

/-- The value of a variable: that of the environment, else the one of the file so far; one without value is empty. -/
def lookupIn (env : List (String × String)) (known : List Binding) (name : String) : Option String :=
  match Assoc.get? env name with
  | some v => some v
  | none => (Assoc.get? known name).map fun v => v.getD ""

/-- The bindings with their variables replaced, in order. -/
def resolved (env : List (String × String)) (bs : List Binding) : List Binding :=
  bs.foldl (fun known b => Assoc.set known b.1 (b.2.map (expand (lookupIn env known)))) []

/-- The environment with the variables of a file. Those that are there already are kept. -/
def extend (env : List (String × String)) (s : String) : List (String × String) :=
  env ++ (resolved env (bindings s)).filterMap fun b =>
    if Assoc.has env b.1 then none else b.2.map fun v => (b.1, v)

/-- Names of the variables in braces, in at most the given number of steps. -/
def bracedFrom : Nat → List Char → List String
  | 0, _ => []
  | _ + 1, [] => []
  | n + 1, '$' :: '\x7b' :: cs =>
    match braced? cs with
    | some (name, _, rest) => String.ofList name :: bracedFrom n rest
    | none => bracedFrom n cs
  | n + 1, _ :: cs => bracedFrom n cs

/-- Names of the variables whose values in the environment matter to a file. -/
def mentioned (s : String) : List String :=
  ((bindings s).flatMap fun b => b.1 :: bracedFrom (b.2.getD "").length (b.2.getD "").toList).eraseDups

end DeadCode.EnvFile
