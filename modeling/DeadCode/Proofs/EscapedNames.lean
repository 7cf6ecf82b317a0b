import DeadCode.Framework.ClassNames
import DeadCode.Proofs.TextPieces
import Mathlib.Data.List.TakeWhile

/-!
# Escaped names in configuration

In a quoted text a backslash may have to be written twice. A text in which no two backslashes stand together names the same
classes and actions if every backslash in it is doubled (`scan_escaped`): the readers for names and actions find the same on
the doubled text, in the same order, and leave the double of what they leave (`literal?_doubled`, `action?_doubled`), and they
start at no backslash, so that a search can go over a doubled text in step with the text itself (`findAll_doubled`).
-/

namespace DeadCode.ClassNames
set_option autoImplicit false

/-- The text with every backslash written twice. -/
def doubled (s : List Char) : List Char := s.flatMap fun c => if '\\' = c then ['\\', '\\'] else [c]

/-- No two backslashes stand together. -/
def Unpaired (s : List Char) : Prop := ¬['\\', '\\'] <:+: s

section Doubling

variable {s t : List Char} {c : Char}

theorem doubled_backslash (s : List Char) : doubled ('\\' :: s) = '\\' :: '\\' :: doubled s := rfl

theorem doubled_cons (other : c ≠ '\\') (s : List Char) : doubled (c :: s) = c :: doubled s := by
  rw [doubled, List.flatMap_cons, if_neg other.symm]
  rfl

theorem doubled_append (s t : List Char) : doubled (s ++ t) = doubled s ++ doubled t := List.flatMap_append

theorem doubled_reverse (s : List Char) : doubled s.reverse = (doubled s).reverse := by
  rw [doubled, doubled, List.reverse_flatMap]
  congr 1
  funext c
  dsimp only [Function.comp_apply]
  split
  · rfl
  · rfl

theorem head?_doubled (s : List Char) : (doubled s).head? = s.head? := by
  cases s with
  | nil => rfl
  | cons c s =>
    by_cases eq : c = '\\'
    · subst eq
      rfl
    · rw [doubled_cons eq]
      rfl

theorem doubled_eq_nil_iff : doubled s = [] ↔ s = [] := by
  rw [← List.head?_eq_none_iff, head?_doubled, List.head?_eq_none_iff]

theorem doubled_of_not_mem (free : '\\' ∉ s) : doubled s = s := by
  induction s with
  | nil => rfl
  | cons c s ih =>
    rw [List.mem_cons, not_or] at free
    rw [doubled_cons (Ne.symm free.1), ih free.2]

theorem length_doubled_le_of_suffix (suffix : t <:+ s) : (doubled t).length ≤ (doubled s).length := by
  obtain ⟨front, rfl⟩ := suffix
  rw [doubled_append, List.length_append]
  omega

theorem takeWhile_doubled (p : Char → Bool) (s : List Char) : (doubled s).takeWhile p = doubled (s.takeWhile p) := by
  induction s with
  | nil => rfl
  | cons c s ih =>
    by_cases eq : c = '\\'
    · subst eq
      cases holds : p '\\'
      · simp [holds, doubled]
      · simp [doubled_backslash, holds, ih]
    · rw [doubled_cons eq, List.takeWhile_cons, List.takeWhile_cons, ih]
      split
      · rw [doubled_cons eq]
      · rfl

theorem dropWhile_doubled (p : Char → Bool) (s : List Char) : (doubled s).dropWhile p = doubled (s.dropWhile p) := by
  induction s with
  | nil => rfl
  | cons c s ih =>
    by_cases eq : c = '\\'
    · subst eq
      cases holds : p '\\'
      · simp [doubled_backslash, holds]
      · simp [doubled_backslash, holds, ih]
    · rw [doubled_cons eq, List.dropWhile_cons, List.dropWhile_cons, ih]
      split
      · rfl
      · rw [doubled_cons eq]

end Doubling

section Pairs

variable {s t : List Char} {c : Char}

theorem Unpaired.of_infix (single : Unpaired s) (part : t <:+: s) : Unpaired t := fun pair => single (pair.trans part)

theorem unpaired_nil : Unpaired [] := by simp [Unpaired]

theorem unpaired_cons_iff : Unpaired (c :: s) ↔ (c = '\\' → s.head? ≠ some '\\') ∧ Unpaired s := by
  rw [Unpaired, List.infix_cons_iff, not_or, Unpaired]
  refine and_congr_left fun _ => not_congr ?_ |>.trans not_and
  rw [List.cons_prefix_cons]
  cases s with
  | nil => simp
  | cons d s => simp [eq_comm]

theorem unpaired_append (free : '\\' ∉ s) (single : Unpaired t) : Unpaired (s ++ t) := by
  induction s with
  | nil => exact single
  | cons c s ih =>
    rw [List.mem_cons, not_or] at free
    exact unpaired_cons_iff.2 ⟨fun eq => absurd eq.symm free.1, ih free.2⟩

theorem replaceIn_of_none {old new : List Char} (none : Text.dropPrefix? old (c :: s) = none) :
    Text.replaceIn old new (c :: s) = c :: Text.replaceIn old new s := by
  rw [Text.replaceIn, none]

/-- Pairs become single again. -/
theorem single_doubled (s : List Char) : single (doubled s) = String.ofList s := by
  rw [single]
  congr 1
  induction s with
  | nil => rw [doubled, List.flatMap_nil, Text.replaceIn]
  | cons c s ih =>
    by_cases eq : c = '\\'
    · subst eq
      have shorter : (doubled s).length < ('\\' :: '\\' :: doubled s).length := by
        rw [List.length_cons, List.length_cons]
        omega
      rw [doubled_backslash, Text.replaceIn]
      simp only [Text.dropPrefix?, if_true, shorter, dite_true, ih]
      rfl
    · have none : Text.dropPrefix? ['\\', '\\'] (c :: doubled s) = none := if_neg (Ne.symm eq)
      rw [doubled_cons eq, replaceIn_of_none none, ih]

theorem single_of_unpaired (free : Unpaired s) : single s = String.ofList s := by
  rw [single]
  congr 1
  induction s with
  | nil => rw [Text.replaceIn]
  | cons c s ih =>
    obtain ⟨apart, rest⟩ := unpaired_cons_iff.1 free
    have none : Text.dropPrefix? ['\\', '\\'] (c :: s) = none := by
      by_cases eq : '\\' = c
      · rw [Text.dropPrefix?, if_pos eq]
        cases s with
        | nil => rfl
        | cons d s => exact if_neg fun same => apart eq.symm (congrArg some same.symm)
      · exact if_neg eq
    rw [replaceIn_of_none none, ih rest]

end Pairs

section Readers

variable {s : List Char}

theorem not_mem_takeWhile_word (s : List Char) : '\\' ∉ s.takeWhile Text.isAsciiWord := by
  intro mem
  exact absurd (List.mem_takeWhile_imp mem) (by decide)

theorem separator?_one {c : Char} (other : c ≠ '\\') (s : List Char) : separator? ('\\' :: c :: s) = some (c :: s) := by
  unfold separator?
  split
  · simp_all
  · simp_all
  · simp_all

theorem separator?_two {c : Char} (other : c ≠ '\\') (s : List Char) :
    separator? ('\\' :: '\\' :: c :: s) = some (c :: s) := if_neg (by simpa using other)

theorem separator?_other {c : Char} (other : c ≠ '\\') (s : List Char) : separator? (c :: s) = none := by
  unfold separator?
  split
  · simp_all
  · simp_all
  · rfl

/-- A separator is one backslash or two, and none follows. -/
theorem separator?_eq_some {r : List Char} (found : separator? s = some r) :
    (∃ c cs, r = c :: cs ∧ c ≠ '\\') ∧ (s = '\\' :: r ∨ s = '\\' :: '\\' :: r) := by
  unfold separator? at found
  split at found
  · next c rest =>
    split at found
    · cases found
    · next other =>
      obtain rfl := Option.some.inj found
      exact ⟨⟨c, rest, rfl, by simpa using other⟩, Or.inr rfl⟩
  · next c rest _ =>
    split at found
    · cases found
    · next other =>
      obtain rfl := Option.some.inj found
      exact ⟨⟨c, rest, rfl, by simpa using other⟩, Or.inl rfl⟩
  · cases found

theorem separator?_doubled (free : Unpaired s) : separator? (doubled s) = (separator? s).map doubled := by
  cases s with
  | nil => rfl
  | cons c s =>
    by_cases eq : c = '\\'
    · subst eq
      cases s with
      | nil => rfl
      | cons d s =>
        have other : d ≠ '\\' := fun eq => (unpaired_cons_iff.1 free).1 rfl (congrArg some eq)
        rw [doubled_backslash, doubled_cons other, separator?_two other, separator?_one other, Option.map_some,
          doubled_cons other]
    · rw [doubled_cons eq, separator?_other eq, separator?_other eq, Option.map_none]

/-- One further part of a name, and what is left. -/
def part? (s : List Char) : Option (List Char × List Char) :=
  match separator? s with
  | some (c :: cs) =>
    if Text.isAsciiLetter c || c == '_' then some (c :: cs.takeWhile Text.isAsciiWord, cs.dropWhile Text.isAsciiWord) else none
  | _ => none

theorem partsFrom_succ (n : Nat) (s : List Char) :
    partsFrom (n + 1) s = match part? s with
      | some (part, rest) => ('\\' :: part ++ (partsFrom n rest).1, (partsFrom n rest).2)
      | none => ([], s) := by
  rw [partsFrom, part?]
  cases separator? s with
  | none => rfl
  | some r =>
    cases r with
    | nil => rfl
    | cons c cs =>
      dsimp only
      split
      · rfl
      · rfl

theorem part?_doubled (free : Unpaired s) : part? (doubled s) = (part? s).map (Prod.map id doubled) := by
  rw [part?, part?, separator?_doubled free]
  cases found : separator? s with
  | none => rfl
  | some r =>
    obtain ⟨⟨c, cs, rfl, other⟩, -⟩ := separator?_eq_some found
    rw [Option.map_some, doubled_cons other]
    dsimp only
    split
    · rw [takeWhile_doubled, dropWhile_doubled, doubled_of_not_mem (not_mem_takeWhile_word cs)]
      rfl
    · rfl

/-- A part has a first character, and no backslash. -/
theorem part?_eq_some {part rest : List Char} (found : part? s = some (part, rest)) :
    part ≠ [] ∧ '\\' ∉ part ∧ ∃ front, s = front ++ part ++ rest ∧ front ≠ [] := by
  rw [part?] at found
  split at found
  · next c cs before =>
    obtain ⟨⟨d, ds, eq, other⟩, shape⟩ := separator?_eq_some before
    obtain ⟨rfl, rfl⟩ := List.cons.inj eq
    split at found
    · obtain ⟨rfl, rfl⟩ := Prod.mk.inj (Option.some.inj found)
      have whole : c :: cs = c :: cs.takeWhile Text.isAsciiWord ++ cs.dropWhile Text.isAsciiWord := by
        rw [List.cons_append, List.takeWhile_append_dropWhile]
      refine ⟨List.cons_ne_nil _ _, ?_, ?_⟩
      · rw [List.mem_cons, not_or]
        exact ⟨Ne.symm other, not_mem_takeWhile_word cs⟩
      · rcases shape with one | two
        · exact ⟨['\\'], by rw [one, List.append_assoc, ← whole]; rfl, List.cons_ne_nil _ _⟩
        · exact ⟨['\\', '\\'], by rw [two, List.append_assoc, ← whole]; rfl, List.cons_ne_nil _ _⟩
    · cases found
  · cases found

theorem length_lt_of_part? {part rest : List Char} (found : part? s = some (part, rest)) : rest.length < s.length := by
  obtain ⟨-, -, front, rfl, filled⟩ := part?_eq_some found
  have positive := List.length_pos_iff.2 filled
  rw [List.length_append, List.length_append]
  omega

theorem suffix_of_part? {part rest : List Char} (found : part? s = some (part, rest)) : rest <:+ s := by
  obtain ⟨-, -, front, rfl, -⟩ := part?_eq_some found
  exact List.suffix_append _ _

theorem partsFrom_suffix (n : Nat) (s : List Char) : (partsFrom n s).2 <:+ s := by
  induction n generalizing s with
  | zero => exact List.suffix_refl s
  | succ n ih =>
    rw [partsFrom_succ]
    split
    · next part rest found => exact (ih rest).trans (suffix_of_part? found)
    · exact List.suffix_refl s

/-- Between the parts of a name stands one backslash. -/
theorem unpaired_partsFrom (n : Nat) (s : List Char) : Unpaired (partsFrom n s).1 := by
  induction n generalizing s with
  | zero => exact unpaired_nil
  | succ n ih =>
    rw [partsFrom_succ]
    split
    · next part rest found =>
      obtain ⟨filled, free, -⟩ := part?_eq_some found
      obtain ⟨c, cs, rfl⟩ := List.exists_cons_of_ne_nil filled
      refine unpaired_cons_iff.2 ⟨fun _ eq => free ?_, unpaired_append free (ih rest)⟩
      obtain rfl := Option.some.inj eq
      exact List.mem_cons_self
    · exact unpaired_nil

/-- The further parts of a name are the same in the doubled text, if there is fuel for all characters. -/
theorem partsFrom_doubled {n m : Nat} (enough : s.length ≤ n) (enough' : (doubled s).length ≤ m) (free : Unpaired s) :
    partsFrom m (doubled s) = ((partsFrom n s).1, doubled (partsFrom n s).2) := by
  induction n generalizing s m with
  | zero =>
    obtain rfl := List.length_eq_zero_iff.1 (Nat.le_zero.1 enough)
    cases m with
    | zero => rfl
    | succ m => rfl
  | succ n ih =>
    cases m with
    | zero =>
      obtain rfl := doubled_eq_nil_iff.1 (List.length_eq_zero_iff.1 (Nat.le_zero.1 enough'))
      rfl
    | succ m =>
      rw [partsFrom_succ, partsFrom_succ, part?_doubled free]
      cases found : part? s with
      | none => rfl
      | some x =>
        obtain ⟨part, rest⟩ := x
        have found' : part? (doubled s) = some (part, doubled rest) := by rw [part?_doubled free, found]; rfl
        have shorter := length_lt_of_part? found
        have shorter' := length_lt_of_part? found'
        have inner := ih (m := m) (s := rest) (by omega) (by omega) (free.of_infix (suffix_of_part? found).isInfix)
        dsimp only [Option.map_some, Prod.map]
        rw [id_eq, inner]

/-- Names are read alike. -/
theorem literal?_doubled (free : Unpaired s) : literal? (doubled s) = (literal? s).map (Prod.map id doubled) := by
  cases s with
  | nil => rfl
  | cons c s =>
    by_cases eq : c = '\\'
    · subst eq
      rfl
    · have inner : Unpaired (s.dropWhile Text.isAsciiWord) :=
        free.of_infix ((List.dropWhile_suffix _).trans (List.suffix_cons c s)).isInfix
      rw [doubled_cons eq, literal?, literal?]
      split
      · rw [takeWhile_doubled, dropWhile_doubled, doubled_of_not_mem (not_mem_takeWhile_word s)]
        dsimp only
        rw [partsFrom_doubled (Nat.le_refl _) (Nat.le_refl _) inner]
        dsimp only
        split
        · rfl
        · rfl
      · rfl

theorem unpaired_of_literal? {name rest : List Char} (found : literal? s = some (name, rest)) : Unpaired name := by
  cases s with
  | nil => cases found
  | cons c s =>
    rw [literal?] at found
    split at found
    · next capital =>
      dsimp only at found
      split at found
      · cases found
      · obtain ⟨rfl, -⟩ := Prod.mk.inj (Option.some.inj found)
        refine unpaired_append ?_ (unpaired_partsFrom _ _)
        rw [List.mem_cons, not_or]
        refine ⟨?_, not_mem_takeWhile_word s⟩
        rintro rfl
        exact absurd capital (by decide)
    · cases found

/-- The action behind a controller, up to the quotation mark, and what is left. -/
def method? : List Char → Option (List Char × List Char)
  | '@' :: a :: s =>
    match s.dropWhile Text.isAsciiWord with
    | r :: after =>
      if isQuote r && (Text.isAsciiLetter a || a == '_') then some (a :: s.takeWhile Text.isAsciiWord, after) else none
    | [] => none
  | _ => none

theorem action?_cons (q : Char) (s : List Char) :
    action? (q :: s) =
      if isQuote q && !(s.takeWhile isControllerChar).isEmpty then
        (method? (s.dropWhile isControllerChar)).map fun x => ((s.takeWhile isControllerChar, x.1), x.2)
      else none := by
  rw [action?]
  generalize s.takeWhile isControllerChar = controller
  generalize s.dropWhile isControllerChar = behind
  cases isQuote q with
  | false => rfl
  | true =>
    simp only [Bool.not_true, Bool.false_eq_true, if_false, Bool.true_and]
    split
    · next a rest =>
      rw [method?]
      cases rest.dropWhile Text.isAsciiWord with
      | nil => simp
      | cons r after =>
        cases controller.isEmpty with
        | true => simp
        | false =>
          simp only [Bool.not_false, Bool.and_true, if_true]
          split
          · rfl
          · rfl
    · next other => rw [method?, Option.map_none, ite_self]; exact other

theorem method?_other {c : Char} (other : c ≠ '@') (s : List Char) : method? (c :: s) = none := by
  rw [method?]
  intro a t eq
  exact other (List.cons.inj eq).1

theorem method?_backslash (s : List Char) : method? ('@' :: '\\' :: s) = none := by
  rw [method?]
  cases s.dropWhile Text.isAsciiWord with
  | nil => rfl
  | cons r after =>
    have letter : (Text.isAsciiLetter '\\' || '\\' == '_') = false := by decide
    dsimp only
    rw [letter, Bool.and_false, if_neg Bool.false_ne_true]

theorem method?_doubled (s : List Char) : method? (doubled s) = (method? s).map (Prod.map id doubled) := by
  cases s with
  | nil => rfl
  | cons c s =>
    by_cases at_ : c = '@'
    · subst at_
      cases s with
      | nil => rfl
      | cons a s =>
        rw [doubled_cons (by decide)]
        by_cases eq : a = '\\'
        · subst eq
          rw [doubled_backslash, method?_backslash, method?_backslash, Option.map_none]
        · rw [doubled_cons eq, method?, method?, takeWhile_doubled, dropWhile_doubled,
            doubled_of_not_mem (not_mem_takeWhile_word s)]
          cases s.dropWhile Text.isAsciiWord with
          | nil => rfl
          | cons r after =>
            by_cases eq' : r = '\\'
            · subst eq'
              rfl
            · rw [doubled_cons eq']
              dsimp only
              split
              · rfl
              · rfl
    · by_cases eq : c = '\\'
      · subst eq
        rw [doubled_backslash, method?_other at_, method?_other at_, Option.map_none]
      · rw [doubled_cons eq, method?_other at_, method?_other at_, Option.map_none]

/-- Actions are read alike, with the controller doubled. -/
theorem action?_doubled (s : List Char) :
    action? (doubled s) = (action? s).map (Prod.map (Prod.map doubled id) doubled) := by
  cases s with
  | nil => rfl
  | cons q s =>
    by_cases eq : q = '\\'
    · subst eq
      rfl
    · have empty : (doubled (s.takeWhile isControllerChar)).isEmpty = (s.takeWhile isControllerChar).isEmpty := by
        rw [Bool.eq_iff_iff, List.isEmpty_iff, List.isEmpty_iff, doubled_eq_nil_iff]
      rw [doubled_cons eq, action?_cons, action?_cons, takeWhile_doubled, dropWhile_doubled, method?_doubled, empty]
      split
      · rw [Option.map_map, Option.map_map]
        rfl
      · rfl

end Readers

section Search

variable {α : Type} {read : List Char → Option (α × List Char)} {s : List Char}

/-- A reader takes the first character at least, and leaves a rest of the text. -/
def Consumes (read : List Char → Option (α × List Char)) : Prop :=
  ∀ c cs x rest, read (c :: cs) = some (x, rest) → rest <:+ cs

theorem literal?_consumes : Consumes literal? := by
  intro c cs x rest found
  rw [literal?] at found
  split at found
  · dsimp only at found
    split at found
    · cases found
    · obtain ⟨-, rfl⟩ := Prod.mk.inj (Option.some.inj found)
      exact (partsFrom_suffix _ _).trans (List.dropWhile_suffix _)
  · cases found

theorem method?_eq_some {t name rest : List Char} (found : method? t = some (name, rest)) : rest <:+ t := by
  unfold method? at found
  split at found
  · next a s =>
    split at found
    · next r after left =>
      split at found
      · obtain ⟨-, rfl⟩ := Prod.mk.inj (Option.some.inj found)
        have tail : r :: after <:+ s := left ▸ List.dropWhile_suffix _
        exact (List.suffix_cons r _).trans (tail.trans ((List.suffix_cons a s).trans (List.suffix_cons '@' _)))
      · cases found
    · cases found
  · cases found

theorem action?_consumes : Consumes action? := by
  intro c cs x rest found
  rw [action?_cons] at found
  split at found
  · obtain ⟨⟨name, after⟩, method, eq⟩ := Option.map_eq_some_iff.1 found
    obtain ⟨-, rfl⟩ := Prod.mk.inj eq
    exact (method?_eq_some method).trans (List.dropWhile_suffix _)
  · cases found

/-- What is found was read somewhere in the text. -/
theorem exists_read_of_mem_findAll (consumes : Consumes read) {x : α} {n : Nat} (mem : x ∈ findAll read n s) :
    ∃ t rest, t <:+ s ∧ read t = some (x, rest) := by
  induction n generalizing s with
  | zero => cases mem
  | succ n ih =>
    cases s with
    | nil => cases mem
    | cons c s =>
      rw [findAll] at mem
      split at mem
      · next y rest found =>
        rcases List.mem_cons.1 mem with rfl | later
        · exact ⟨c :: s, rest, List.suffix_refl _, found⟩
        · obtain ⟨t, rest', suffix, found'⟩ := ih later
          exact ⟨t, rest', suffix.trans ((consumes c s y rest found).trans (List.suffix_cons c s)), found'⟩
      · obtain ⟨t, rest', suffix, found'⟩ := ih mem
        exact ⟨t, rest', suffix.trans (List.suffix_cons c s), found'⟩

/-- A search goes over the doubled text in step with the text: where a backslash stands nothing starts, and elsewhere the
readers take and leave alike. -/
theorem findAll_doubled {f : α → α} (consumes : Consumes read) (skips : ∀ t, read ('\\' :: t) = none)
    (alike : ∀ t, Unpaired t → read (doubled t) = (read t).map (Prod.map f doubled)) {n m : Nat} (enough : s.length ≤ n)
    (enough' : (doubled s).length ≤ m) (free : Unpaired s) :
    findAll read m (doubled s) = (findAll read n s).map f := by
  induction n generalizing s m with
  | zero =>
    obtain rfl := List.length_eq_zero_iff.1 (Nat.le_zero.1 enough)
    cases m with
    | zero => rfl
    | succ m => rfl
  | succ n ih =>
    cases s with
    | nil =>
      cases m with
      | zero => rfl
      | succ m => rfl
    | cons c s =>
      have tail : Unpaired s := (unpaired_cons_iff.1 free).2
      rw [List.length_cons] at enough
      by_cases eq : c = '\\'
      · subst eq
        rw [doubled_backslash, List.length_cons, List.length_cons] at enough'
        obtain ⟨m, rfl⟩ : ∃ k, m = k + 2 := ⟨m - 2, by omega⟩
        rw [doubled_backslash, findAll, skips, findAll, skips, findAll, skips]
        exact ih (by omega) (by omega) tail
      · have read' := alike (c :: s) free
        rw [doubled_cons eq] at read' enough' ⊢
        rw [List.length_cons] at enough'
        obtain ⟨m, rfl⟩ : ∃ k, m = k + 1 := ⟨m - 1, by omega⟩
        rw [findAll, findAll, read']
        cases found : read (c :: s) with
        | none => exact ih (by omega) (by omega) tail
        | some x =>
          obtain ⟨x, rest⟩ := x
          have suffix : rest <:+ s := consumes c s x rest found
          have shorter := suffix.length_le
          have shorter' := length_doubled_le_of_suffix suffix
          have later := ih (m := m) (s := rest) (by omega) (by omega) (tail.of_infix suffix.isInfix)
          exact congrArg (f x :: ·) later

end Search

section Lines

variable {s acc : List Char}

/-- A line end that is no part of a longer one stays one in the doubled text. -/
theorem linesFrom_doubled_cons {c : Char} (apart : ∀ cs, c = '\r' → s = '\n' :: cs → False) (plain : c ≠ '\\') :
    Text.linesFrom acc (doubled (c :: s)) =
      if Text.isLineEnd c then acc.reverse :: Text.linesFrom [] (doubled s) else Text.linesFrom (c :: acc) (doubled s) := by
  rw [doubled_cons plain, Text.linesFrom]
  intro cs eq start
  have head := head?_doubled s
  rw [start, List.head?_cons] at head
  obtain ⟨rest, rfl⟩ := List.head?_eq_some_iff.1 head.symm
  exact apart rest eq rfl

/-- The lines of the doubled text are the doubled lines. -/
theorem linesFrom_doubled (acc s : List Char) :
    Text.linesFrom (doubled acc) (doubled s) = (Text.linesFrom acc s).map doubled := by
  fun_induction Text.linesFrom acc s with
  | case1 acc empty =>
    rw [List.isEmpty_iff] at empty
    subst empty
    rfl
  | case2 acc filled =>
    rw [List.isEmpty_iff, ← doubled_eq_nil_iff, ← List.isEmpty_iff] at filled
    rw [List.map_singleton, doubled_reverse]
    exact if_neg filled
  | case3 acc s ih =>
    rw [doubled_cons (by decide), doubled_cons (by decide), Text.linesFrom, List.map_cons, ← ih, doubled_reverse]
    rfl
  | case4 acc c s apart ends ih =>
    have plain : c ≠ '\\' := by
      rintro rfl
      exact absurd ends (by decide)
    rw [linesFrom_doubled_cons apart plain, if_pos ends, List.map_cons, ← ih, doubled_reverse]
    rfl
  | case5 acc c s apart ends ih =>
    rw [← ih]
    by_cases eq : c = '\\'
    · -- both backslashes go to the line
      subst eq
      rfl
    · rw [linesFrom_doubled_cons apart eq, if_neg ends, doubled_cons eq]

theorem infix_of_mem_linesFrom {line : List Char} (mem : line ∈ Text.linesFrom acc s) : line <:+: acc.reverse ++ s := by
  fun_induction Text.linesFrom acc s with
  | case1 acc empty => cases mem
  | case2 acc filled =>
    obtain rfl := List.mem_singleton.1 mem
    exact (List.prefix_append _ _).isInfix
  | case3 acc s ih =>
    rcases List.mem_cons.1 mem with rfl | later
    · exact (List.prefix_append _ _).isInfix
    · exact (ih later).trans ((List.suffix_cons '\n' s).trans ((List.suffix_cons '\r' _).trans (List.suffix_append _ _))).isInfix
  | case4 acc c s other ends ih =>
    rcases List.mem_cons.1 mem with rfl | later
    · exact (List.prefix_append _ _).isInfix
    · exact (ih later).trans ((List.suffix_cons c s).trans (List.suffix_append _ _)).isInfix
  | case5 acc c s other ends ih => simpa using ih mem

end Lines

section Scan

variable {s : List Char}

theorem allIn_literal_doubled (free : Unpaired s) : allIn literal? (doubled s) = allIn literal? s := by
  rw [allIn, allIn, findAll_doubled literal?_consumes (fun _ => rfl) (fun _ => literal?_doubled) (Nat.le_refl _)
    (Nat.le_refl _) free, List.map_id]

theorem allIn_action_doubled (free : Unpaired s) :
    allIn action? (doubled s) = (allIn action? s).map (Prod.map doubled id) :=
  findAll_doubled action?_consumes (fun _ => rfl) (fun t _ => action?_doubled t) (Nat.le_refl _) (Nat.le_refl _) free

/-- The controller of an action is a piece of the text. -/
theorem infix_of_mem_actions {a : List Char × List Char} (mem : a ∈ allIn action? s) : a.1 <:+: s := by
  obtain ⟨t, rest, suffix, found⟩ := exists_read_of_mem_findAll action?_consumes mem
  cases t with
  | nil => cases found
  | cons q t =>
    rw [action?_cons] at found
    split at found
    · obtain ⟨x, -, eq⟩ := Option.map_eq_some_iff.1 found
      obtain ⟨rfl, -⟩ := Prod.mk.inj eq
      exact (List.takeWhile_prefix _).isInfix.trans ((List.suffix_cons q t).trans suffix).isInfix
    · cases found

/-- A line names the same when it is doubled. -/
theorem scanLine_doubled (file source : String) (line : Nat) (free : Unpaired s) :
    scanLine file source line (doubled s) = scanLine file source line s := by
  rw [scanLine, scanLine, allIn_literal_doubled free, allIn_action_doubled free, List.map_map]
  refine congrArg _ (List.map_congr_left fun a mem => ?_)
  have controller : single (doubled a.1) = single a.1 := by
    rw [single_doubled, single_of_unpaired (free.of_infix (infix_of_mem_actions mem))]
  dsimp only [Function.comp_apply, Prod.map]
  rw [controller, id_eq]

theorem unpaired_of_mem_scanLine {file source : String} {line : Nat} {r : Reference} (mem : r ∈ scanLine file source line s)
    (named : r.kind = .classString) : Unpaired r.name.toList := by
  rcases List.mem_append.1 mem with name | action
  · obtain ⟨x, found, rfl⟩ := List.mem_map.1 name
    obtain ⟨t, rest, -, read⟩ := exists_read_of_mem_findAll literal?_consumes found
    rw [String.toList_ofList]
    exact unpaired_of_literal? read
  · obtain ⟨a, -, rfl⟩ := List.mem_map.1 action
    cases named

theorem lines_doubled (text : String) :
    Text.lines (Text.replace "\\" "\\\\" text) = (Text.lines text).map fun l => String.ofList (doubled l.toList) := by
  have once : (Text.replace "\\" "\\\\" text).toList = doubled text.toList := Text.toList_replace rfl "\\\\" text
  have lines : Text.linesFrom [] (doubled text.toList) = _ := linesFrom_doubled [] text.toList
  rw [Text.lines, once, lines, Text.lines, List.map_map, List.map_map]
  simp only [Function.comp_def, String.toList_ofList]

theorem unpaired_of_mem_lines {text l : String} (free : Unpaired text.toList) (mem : l ∈ Text.lines text) :
    Unpaired l.toList := by
  obtain ⟨cs, piece, rfl⟩ := List.mem_map.1 mem
  rw [String.toList_ofList]
  exact free.of_infix (infix_of_mem_linesFrom piece)

end Scan

/-- **Escapes do not matter.** Where no two backslashes stand together in a text, doubling each of them changes nothing: the same
references are found, with the same names and lines and in the same order. And in no text is a class found under a name in which
two backslashes stand together. -/
theorem scan_escaped (text file source : String) :
    (¬['\\', '\\'] <:+: text.toList → scan (Text.replace "\\" "\\\\" text) file source = scan text file source) ∧
    ∀ r ∈ scan text file source, r.kind = .classString → ¬['\\', '\\'] <:+: r.name.toList := by
  constructor
  · intro free
    rw [scan, lines_doubled, List.zipIdx_map, List.flatMap_map, scan]
    refine List.flatMap_congr fun l mem => ?_
    have line : l.1 ∈ Text.lines text := List.fst_mem_of_mem_zipIdx mem
    dsimp only [Prod.map]
    rw [String.toList_ofList, id_eq, scanLine_doubled file source l.2 (unpaired_of_mem_lines free line)]
  · intro r mem named
    obtain ⟨l, -, found⟩ := List.mem_flatMap.1 mem
    exact unpaired_of_mem_scanLine found named

/-- A class and an action of it, in the second line of a text. -/
theorem scan_escaped_route :
    ¬['\\', '\\'] <:+: "get:\n 'App\\Home@index'".toList ∧
    scan (Text.replace "\\" "\\\\" "get:\n 'App\\Home@index'") "routes" "web" =
      scan "get:\n 'App\\Home@index'" "routes" "web" ∧
    (scan "get:\n 'App\\Home@index'" "routes" "web").map (fun r => (r.kind, r.name, r.line)) =
      [(.classString, "App\\Home", 2), (.methodCall, "index", 2)] := by
  have single : ¬['\\', '\\'] <:+: "get:\n 'App\\Home@index'".toList := by decide
  exact ⟨single, (scan_escaped "get:\n 'App\\Home@index'" "routes" "web").1 single, by decide⟩

end DeadCode.ClassNames
