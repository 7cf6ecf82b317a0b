import DeadCode.Framework.ClassNames
import DeadCode.Scope

/-!
# The scope of a file at a glance

The namespace of a file and its imports of classes, read from the shape of its lines without parsing it.
-/

namespace DeadCode.FileScope
set_option autoImplicit false

/-- An ASCII letter, or one of the letters that differ from one only in case. -/
def isLetterLike (c : Char) : Bool :=
  Text.isAsciiLetter c || [0x17F, 0x212A, 0x130, 0x131].contains c.toNat

/-- What is left after the spaces at the start, at least one. -/
def afterGap? : List Char → Option (List Char)
  | c :: cs => if Text.isBlank c then some (cs.dropWhile Text.isBlank) else none
  | [] => none

/-- What is left after a word of small letters, in any case. -/
def afterWord? : List Char → List Char → Option (List Char)
  | [], s => some s
  | p :: ps, c :: cs => if Text.sameLetter p c then afterWord? ps cs else none
  | _ :: _, [] => none

/-- A namespace statement at the start of a line. Space before it may hold line ends. -/
def namespace? (s : List Char) : Option String := do
  let rest ← Text.dropPrefix? "namespace".toList (s.dropWhile Text.isBlank)
  let rest ← afterGap? rest
  let isPart := fun (c : Char) => Text.isAsciiWord c || c == '\\'
  let name := rest.takeWhile isPart
  let c ← name.head?
  let after := (rest.dropWhile isPart).dropWhile Text.isBlank
  if !Text.isAsciiDigit c && (after.head? == some ';' || after.head? == some '\x7b') then
    some (Text.trimBoth (· == '\\') (String.ofList name))
  else none

/-- An alias at the start of what follows an imported name. -/
def asName? (s : List Char) : Option (List Char × List Char) := do
  let rest ← afterGap? s
  let rest ← afterWord? ['a', 's'] rest
  let rest ← afterGap? rest
  let isPart := fun (c : Char) => isLetterLike c || Text.isAsciiDigit c || c == '_'
  let name := rest.takeWhile isPart
  let c ← name.head?
  if Text.isAsciiDigit c then none else some (name, rest.dropWhile isPart)

/-- The import of a class at the start of a line: the name, the alias, and what is left. -/
def import? (s : List Char) : Option ((List Char × Option (List Char)) × List Char) := do
  let rest ← afterWord? ['u', 's', 'e'] s
  let rest ← afterGap? rest
  let root := rest.takeWhile (· == '\\')
  let isPart := fun (c : Char) => isLetterLike c || Text.isAsciiDigit c || c == '_' || c == '\\'
  let body := (rest.drop 1)
  let c ← if root.isEmpty then rest.head? else body.head?
  if Text.isAsciiDigit c || c == '\\' || !isPart c then none
  let name := rest.takeWhile isPart
  let after := rest.dropWhile isPart
  let closed := fun (t : List Char) =>
    match t.dropWhile Text.isBlank with
    | ';' :: more => some more
    | _ => none
  match (asName? after).bind fun a => (closed a.2).map fun more => (a.1, more) with
  | some (a, more) => some ((name, some a), more)
  | none => (closed after).map fun more => ((name, none), more)

/-- Everything that a reader of the starts of lines finds in a text. -/
def atLineStarts {α : Type} (read : List Char → Option (α × List Char)) : Nat → Bool → List Char → List α
  | 0, _, _ => []
  | n + 1, atStart, s =>
    match if atStart then read s else none with
    | some (x, rest) => x :: atLineStarts read n false rest
    | none =>
      match s with
      | [] => []
      | c :: cs => atLineStarts read n (c == '\n') cs

/-- The scope that the lines of a text show. -/
def ofText (text : String) : Scope :=
  let s := text.toList
  let spaces := atLineStarts (fun t => (namespace? t).map fun n => (n, [])) (s.length + 1) true s
  let imports := atLineStarts import? (s.length + 1) true s
  let aliases := imports.map fun i =>
    let fqn := Text.trimStart (· == '\\') (String.ofList i.1)
    (Text.lower ((i.2.map String.ofList).getD (Name.short fqn)), fqn)
  { space := spaces.head?.getD "", classAliases := Assoc.ofPairs aliases }

end DeadCode.FileScope
