import DeadCode.Proofs.LongestPrefix
import Mathlib.Logic.Relation

/-!
# Shapes of letters

Patterns for names compare letters without regard to their shape. A letter has a lower-case form, and some lower-case
forms are shapes of one letter, such as the two small forms of sigma. Two characters are the same letter exactly if such
steps lead from one to the other, in either direction (`sameLetter_iff_eqvGen`): a table that named a shape on one side
only, or a lower-case form with another one of its own, would break this.
-/

namespace DeadCode.Text
set_option autoImplicit false

/-- The other lower-case shapes of the letter with this number. -/
def shapes (n : Nat) : List Nat := (letterSiblings.lookup n).getD []

/-- A letter and its lower-case form, or two lower-case shapes of one letter. -/
def OtherShape (a b : Char) : Prop := b = lowerChar a ∨ b.toNat ∈ shapes a.toNat

theorem lowerChar_lowerChar (c : Char) : lowerChar (lowerChar c) = lowerChar c := by
  have special : ∀ n ∈ [0x130, 0x3a3], lowerChar (lowerChar (Char.ofNat n)) = lowerChar (Char.ofNat n) := by decide +kernel
  by_cases dotted : c.toNat = 0x130
  · rw [← Char.ofNat_toNat c, dotted]
    exact special _ (by simp)
  · by_cases sigma : c.toNat = 0x3a3
    · rw [← Char.ofNat_toNat c, sigma]
      exact special _ (by simp)
    · exact (isSettled_lowerChar dotted sigma).1

theorem mem_letterSiblings {n m : Nat} (h : m ∈ shapes n) : ∃ others, (n, others) ∈ letterSiblings ∧ m ∈ others := by
  unfold shapes at h
  cases found : letterSiblings.lookup n with
  | none => simp [found] at h
  | some others =>
    obtain ⟨before, after, eq, -⟩ := List.lookup_eq_some_iff.1 found
    refine ⟨others, ?_, by simpa [found] using h⟩
    rw [eq]
    simp

theorem shapes_closed : ∀ e ∈ letterSiblings, lowerChar (Char.ofNat e.1) = Char.ofNat e.1 ∧
    ∀ m ∈ e.2, e.1 ∈ shapes m ∧ ∀ k ∈ shapes m, k = e.1 ∨ k ∈ shapes e.1 := by decide +kernel

section Shapes

variable {n m k : Nat}

theorem lowerChar_of_mem_shapes (h : m ∈ shapes n) : lowerChar (Char.ofNat n) = Char.ofNat n := by
  obtain ⟨others, listed, -⟩ := mem_letterSiblings h
  exact (shapes_closed _ listed).1

theorem mem_shapes_symm (h : m ∈ shapes n) : n ∈ shapes m := by
  obtain ⟨others, listed, mem⟩ := mem_letterSiblings h
  exact ((shapes_closed _ listed).2 m mem).1

theorem mem_shapes_trans (h : m ∈ shapes n) (h' : k ∈ shapes m) : k = n ∨ k ∈ shapes n := by
  obtain ⟨others, listed, mem⟩ := mem_letterSiblings h
  exact ((shapes_closed _ listed).2 m mem).2 k h'

end Shapes

section Letters

variable {a b c : Char}

theorem sameLetter_iff :
    sameLetter a b = true ↔ lowerChar a = lowerChar b ∨ (lowerChar b).toNat ∈ shapes (lowerChar a).toNat := by
  simp only [sameLetter, shapes, Bool.or_eq_true, beq_iff_eq, List.contains_eq_mem, decide_eq_true_eq]
  constructor
  · rintro ((rfl | lower) | shape)
    · exact Or.inl rfl
    · exact Or.inl lower
    · exact Or.inr shape
  · rintro (lower | shape)
    · exact Or.inl (Or.inr lower)
    · exact Or.inr shape

theorem sameLetter_symm (h : sameLetter a b = true) : sameLetter b a = true := by
  rw [sameLetter_iff] at h ⊢
  exact h.imp Eq.symm mem_shapes_symm

theorem sameLetter_trans (h : sameLetter a b = true) (h' : sameLetter b c = true) : sameLetter a c = true := by
  rw [sameLetter_iff] at h h' ⊢
  rcases h with lower | shape
  · rwa [lower]
  · rcases h' with lower' | shape'
    · rw [← lower']
      exact Or.inr shape
    · rcases mem_shapes_trans shape shape' with same | shape''
      · exact Or.inl (Char.toNat_inj.1 same).symm
      · exact Or.inr shape''

theorem sameLetter_of_otherShape (h : OtherShape a b) : sameLetter a b = true := by
  rw [sameLetter_iff]
  rcases h with rfl | shape
  · exact Or.inl (lowerChar_lowerChar a).symm
  · have settled := lowerChar_of_mem_shapes shape
    have settled' := lowerChar_of_mem_shapes (mem_shapes_symm shape)
    rw [Char.ofNat_toNat] at settled settled'
    rw [settled, settled']
    exact Or.inr shape

/-- Being the same letter is the equivalence that the shapes of letters generate. -/
theorem sameLetter_iff_eqvGen : sameLetter a b = true ↔ Relation.EqvGen OtherShape a b := by
  have lowered : ∀ c, Relation.EqvGen OtherShape c (lowerChar c) := fun c => .rel _ _ (Or.inl rfl)
  constructor
  · intro same
    refine .trans _ _ _ (lowered a) (.trans _ (lowerChar b) _ ?_ (.symm _ _ (lowered b)))
    rcases sameLetter_iff.1 same with lower | shape
    · rw [lower]
      exact .refl _
    · exact .rel _ _ (Or.inr shape)
  · intro generated
    induction generated with
    | rel a b shape => exact sameLetter_of_otherShape shape
    | refl a => simp [sameLetter]
    | symm a b _ ih => exact sameLetter_symm ih
    | trans a b c _ _ ih ih' => exact sameLetter_trans ih ih'

end Letters

end DeadCode.Text
