import Mathlib.Data.List.Forall2
import Mathlib.Data.List.Induction
import Mathlib.Data.List.Nodup
import Mathlib.Data.List.TakeWhile

/-!
# Lists

Facts about lists of anything that several parts of the development need: grouping by keys, joining with a separator,
searching up to a first failure, and removing what occurs twice.
-/

namespace DeadCode
set_option autoImplicit false

theorem nodup_eraseDups {α : Type} [BEq α] [LawfulBEq α] (xs : List α) : xs.eraseDups.Nodup := by
  induction h : xs.length using Nat.strongRecOn generalizing xs with
  | ind n ih =>
    cases xs with
    | nil => simp
    | cons a as =>
      rw [List.eraseDups_cons, List.nodup_cons]
      constructor
      · simp
      · refine ih _ ?_ _ rfl
        have shorter := List.length_filter_le (fun b => !b == a) as
        simp only [List.length_cons] at h
        omega

theorem append_subset_append {α : Type} {as bs as' bs' : List α} (left : as ⊆ as') (right : bs ⊆ bs') :
    as ++ bs ⊆ as' ++ bs' :=
  List.append_subset.2 ⟨List.subset_append_of_subset_left _ left, List.subset_append_of_subset_right _ right⟩

theorem exists_related {α β : Type} {R : α → β → Prop} {as : List α} {bs : List β} (h : List.Forall₂ R as bs) :
    (∀ b ∈ bs, ∃ a ∈ as, R a b) ∧ ∀ a ∈ as, ∃ b ∈ bs, R a b := by
  induction h with
  | nil => simp
  | cons related _ ih => simp_all

theorem mem_dropWhile {α : Type} {p : α → Bool} {xs : List α} {x : α} (mem : x ∈ xs) (stays : p x = false) :
    x ∈ xs.dropWhile p := by
  induction xs with
  | nil => cases mem
  | cons y xs ih =>
    rw [List.dropWhile_cons]
    split
    · next gone =>
      refine ih ((List.mem_cons.1 mem).resolve_left ?_)
      rintro rfl
      rw [stays] at gone
      cases gone
    · exact mem

theorem findSome?_takeWhile_eq_some_iff {α β : Type} {p : α → Bool} {f : α → Option β} (xs : List α) (b : β) :
    (xs.takeWhile p).findSome? f = some b ↔
      ∃ l a r, xs = l ++ a :: r ∧ (∀ d ∈ l, p d = true ∧ f d = none) ∧ p a = true ∧ f a = some b := by
  constructor
  · intro found
    obtain ⟨l, a, r, eq, value, none⟩ := List.findSome?_eq_some_iff.1 found
    have all : ∀ d ∈ l ++ a :: r, p d = true := fun d mem => List.mem_takeWhile_imp (eq ▸ mem)
    refine ⟨l, a, r ++ xs.dropWhile p, ?_, fun d mem => ⟨all d (by simp [mem]), none d mem⟩, all a (by simp), value⟩
    rw [← List.cons_append, ← List.append_assoc, ← eq, List.takeWhile_append_dropWhile]
  · rintro ⟨l, a, r, rfl, nearer, here, value⟩
    rw [List.takeWhile_append_of_pos fun d mem => (nearer d mem).1, List.takeWhile_cons_of_pos here]
    exact List.findSome?_eq_some_iff.2 ⟨l, a, _, rfl, value, fun d mem => (nearer d mem).2⟩

section Groups

variable {α κ : Type} [BEq κ] [LawfulBEq κ] (key : α → κ)

/-- What has one of two keys apart is what has the one with what has the other. -/
theorem filter_append_filter_perm {p q : α → Bool} (apart : ∀ x, p x = true → q x = false) (xs : List α) :
    (xs.filter p ++ xs.filter q).Perm (xs.filter fun x => p x || q x) := by
  have first : (xs.filter fun x => p x || q x).filter p = xs.filter p := by
    rw [List.filter_filter]
    refine List.filter_congr fun x _ => ?_
    cases p x <;> simp
  have second : ((xs.filter fun x => p x || q x).filter fun x => !p x) = xs.filter q := by
    rw [List.filter_filter]
    refine List.filter_congr fun x _ => ?_
    cases h : p x with
    | false => simp
    | true => simp [apart x h]
  have split := List.filter_append_perm p (xs.filter fun x => p x || q x)
  rwa [first, second] at split

/-- Grouping by different keys keeps everything that has one of them, as often as it occurs. -/
theorem flatMap_filter_perm {ks : List κ} (distinct : ks.Nodup) (xs : List α) :
    (ks.flatMap fun k => xs.filter (key · == k)).Perm (xs.filter fun x => ks.contains (key x)) := by
  induction ks with
  | nil => simp
  | cons k ks ih =>
    obtain ⟨fresh, distinct⟩ := List.nodup_cons.1 distinct
    rw [List.flatMap_cons]
    refine ((List.Perm.refl _).append (ih distinct)).trans ?_
    have apart : ∀ x, (key x == k) = true → ks.contains (key x) = false := by
      intro x own
      rw [eq_of_beq own, List.contains_eq_mem, decide_eq_false_iff_not]
      exact fresh
    exact filter_append_filter_perm apart xs

/-- In a list grouped by different keys, the members with one of them stand in their old order. -/
theorem filter_flatMap_filter {ks : List κ} (distinct : ks.Nodup) {k : κ} (given : k ∈ ks) (xs : List α) :
    (ks.flatMap fun k => xs.filter (key · == k)).filter (key · == k) = xs.filter (key · == k) := by
  have other : ∀ ys : List α, (∀ x ∈ ys, key x ≠ k) → ys.filter (key · == k) = [] := by
    intro ys apart
    exact List.filter_eq_nil_iff.2 fun x given own => apart x given (eq_of_beq own)
  induction ks with
  | nil => cases given
  | cons j ks ih =>
    obtain ⟨fresh, distinct⟩ := List.nodup_cons.1 distinct
    rw [List.flatMap_cons, List.filter_append]
    by_cases own : j = k
    · subst own
      rw [other (ks.flatMap _), List.append_nil, List.filter_filter]
      · simp only [Bool.and_self]
      · intro x grouped eq
        obtain ⟨i, listed, x⟩ := List.mem_flatMap.1 grouped
        have key := eq_of_beq (List.mem_filter.1 x).2
        exact fresh (eq ▸ key ▸ listed)
    · rw [other (xs.filter _), List.nil_append]
      · exact ih distinct (List.mem_of_ne_of_mem (Ne.symm own) given)
      · intro x listed eq
        exact own ((eq_of_beq (List.mem_filter.1 listed).2).symm.trans eq)

end Groups

section Intercalate

variable {α : Type} {sep : List α} {xs : List (List α)} {a : α}

theorem mem_intercalate (mem : a ∈ sep.intercalate xs) : a ∈ sep ∨ ∃ x ∈ xs, a ∈ x := by
  induction xs with
  | nil => cases mem
  | cons x xs ih =>
    cases xs with
    | nil => exact Or.inr ⟨x, List.mem_cons_self, by simpa using mem⟩
    | cons y xs =>
      rw [List.intercalate_cons_cons, List.mem_append, List.mem_append] at mem
      rcases mem with (first | between) | later
      · exact Or.inr ⟨x, List.mem_cons_self, first⟩
      · exact Or.inl between
      · exact (ih later).imp_right fun ⟨z, given, inside⟩ => ⟨z, List.mem_cons_of_mem x given, inside⟩

theorem subset_intercalate {x : List α} (given : x ∈ xs) : x ⊆ sep.intercalate xs := by
  induction xs with
  | nil => cases given
  | cons y xs ih =>
    cases xs with
    | nil =>
      obtain rfl := List.mem_singleton.1 given
      simp
    | cons z xs =>
      rw [List.intercalate_cons_cons]
      rcases List.mem_cons.1 given with rfl | later
      · intro a mem
        simp [mem]
      · exact fun a mem => List.mem_append_right _ (ih later mem)

theorem flatMap_intercalate {α β : Type} (f : α → List β) (sep : List α) (xs : List (List α)) :
    (sep.intercalate xs).flatMap f = (sep.flatMap f).intercalate (xs.map (·.flatMap f)) := by
  induction xs with
  | nil => rfl
  | cons x xs ih =>
    cases xs with
    | nil => simp
    | cons y xs =>
      rw [List.map_cons, List.map_cons, List.intercalate_cons_cons, List.intercalate_cons_cons, List.flatMap_append,
        List.flatMap_append, ih, List.map_cons]

end Intercalate

end DeadCode
