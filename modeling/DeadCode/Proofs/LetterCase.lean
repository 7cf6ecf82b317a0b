import DeadCode.Proofs.ClassUses
import DeadCode.Proofs.ReferenceChanges

/-!
# Capital and small letters in references

The language does not tell `Foo` from `FOO` in the names of classes, functions and methods. Neither do the rules: if in the
references such names are written with other capitals, every rule gives the same findings (`sameFindings_of_recased`).
`Recased` says what may change, and `Recased.readsAs` that no rule reads anything of it.
-/

namespace DeadCode
set_option autoImplicit false

namespace Text

theorem asciiLower_eq_separator (c : Char) : asciiLower c = '\\' ↔ c = '\\' := by
  constructor
  · intro eq
    by_contra other
    unfold asciiLower at eq
    split at eq
    · exact lowerChar_ne_separator other eq
    · exact other eq
  · rintro rfl
    decide

instance (a b : String) : Decidable (SameAscii a b) := inferInstanceAs (Decidable (_ = _))

namespace SameAscii

variable {a b : String}

theorem symm (same : SameAscii a b) : SameAscii b a := Eq.symm same

theorem isEmpty_eq (same : SameAscii a b) : b.isEmpty = a.isEmpty := by
  have length : a.toList.length = b.toList.length := by simpa using congrArg List.length same
  rw [Bool.eq_iff_iff, String.isEmpty_iff, String.isEmpty_iff, ← String.toList_eq_nil_iff, ← String.toList_eq_nil_iff,
    ← List.length_eq_zero_iff, ← List.length_eq_zero_iff, length]

theorem trimStart (same : SameAscii a b) :
    SameAscii (Text.trimStart (· == '\\') a) (Text.trimStart (· == '\\') b) := by
  have separator : (fun c => c == '\\') ∘ asciiLower = fun c => c == '\\' := by
    funext c
    rw [Bool.eq_iff_iff]
    simp [asciiLower_eq_separator]
  have cut : ∀ cs : List Char, (cs.dropWhile (· == '\\')).map asciiLower = (cs.map asciiLower).dropWhile (· == '\\') := by
    intro cs
    rw [List.dropWhile_map, separator]
  simp only [SameAscii, Text.trimStart, String.toList_ofList, cut]
  rw [same]

theorem short (same : SameAscii a b) : SameAscii (Name.short a) (Name.short b) := by
  have separator : (fun c => decide (c ≠ '\\')) ∘ asciiLower = fun c => decide (c ≠ '\\') := by
    funext c
    simp [asciiLower_eq_separator]
  have cut : ∀ cs : List Char, (afterLast '\\' cs).map asciiLower = afterLast '\\' (cs.map asciiLower) := by
    intro cs
    rw [afterLast, afterLast, List.map_reverse, ← List.map_reverse (l := cs), List.takeWhile_map, separator]
  simp only [SameAscii, Name.short, String.toList_ofList, cut]
  rw [same]

end SameAscii
end Text

namespace NamespaceMap

variable {a b : String}

theorem ofClass_eq_of_sameAscii (m : NamespaceMap) (same : Text.SameAscii a b) : m.ofClass b = m.ofClass a := by
  rw [ofClass, ofClass, Text.lower_eq_of_sameAscii same.trimStart]

theorem ofFunction_eq_of_sameAscii (m : NamespaceMap) (same : Text.SameAscii a b) :
    m.ofFunction b = m.ofFunction a := by
  delta ofFunction
  rw [Text.lower_eq_of_sameAscii same.trimStart]

end NamespaceMap

/-- Kinds of references whose name is that of a class, a function or a method. -/
def ReferenceKind.ignoresCase (kind : ReferenceKind) : Bool :=
  kind.namesClass || kind.isImport || kind == .functionCall || kind == .methodCall || kind == .staticCall

/-- The same class name but for capitals. The words for the class at hand and its parent keep their spelling. -/
structure Name.SameClass (p p' : String) : Prop where
  ascii : Text.SameAscii p p'
  word : Name.isRelative p = true → p' = p

/-- The same reference with other capitals: in its name, if that is one of a class, a function or a method, in the class
that a member is looked up in, and in the class around it. -/
structure Reference.Recased (r r' : Reference) : Prop where
  rest : r' = { r with name := r'.name, parent := r'.parent, enclosing := r'.enclosing }
  name : Text.SameAscii r.name r'.name
  spelled : r.kind.ignoresCase = false → r'.name = r.name
  parent : Option.Rel Name.SameClass r.parent r'.parent
  enclosing : Option.Rel Text.SameAscii r.enclosing r'.enclosing

namespace Name.SameClass

variable {p p' : String}

theorem lower_eq (same : SameClass p p') : Text.lower p' = Text.lower p := Text.lower_eq_of_sameAscii same.ascii.symm

theorem eq_word_iff (same : SameClass p p') {w : String} (word : isRelative w = true) : p' = w ↔ p = w := by
  constructor
  · rintro rfl
    -- Whether a name is such a word is asked in lower case, so the first name is one too and keeps its spelling.
    have own : isRelative p = true := by rwa [isRelative, ← same.lower_eq]
    exact (same.word own).symm
  · rintro rfl
    exact same.word word

end Name.SameClass

namespace Reference.Recased

variable {r r' : Reference}

theorem related_filter {R : String → String → Prop} (ascii : ∀ p p', R p p' → Text.SameAscii p p')
    {p p' : Option String} (related : Option.Rel R p p') :
    Option.Rel R (p.filter (!·.isEmpty)) (p'.filter (!·.isEmpty)) := by
  cases related with
  | none => exact .none
  | @some p p' same =>
    have empty := (ascii p p' same).isEmpty_eq
    cases filled : p.isEmpty with
    | true => simp [Option.filter, empty, filled]
    | false => simpa [Option.filter, empty, filled] using same

theorem related_parent? (recased : r.Recased r') : Option.Rel Name.SameClass r.parent? r'.parent? :=
  related_filter (fun _ _ same => same.ascii) recased.parent

theorem kind_eq (recased : r.Recased r') : r'.kind = r.kind := by rw [recased.rest]

theorem isDynamic_eq (recased : r.Recased r') : r'.isDynamic = r.isDynamic := by rw [recased.rest]

theorem lower_name (recased : r.Recased r') : Text.lower r'.name = Text.lower r.name :=
  Text.lower_eq_of_sameAscii recased.name.symm

theorem map_lower_parent? (recased : r.Recased r') : r'.parent?.map Text.lower = r.parent?.map Text.lower := by
  have related := recased.related_parent?
  generalize r.parent? = p at related ⊢
  generalize r'.parent? = p' at related ⊢
  cases related with
  | none => rfl
  | some same => exact congrArg some same.lower_eq

/-- A test that only looks for words for the class at hand, and then a reading that is blind to capitals. -/
theorem bind_filter_parent? (recased : r.Recased r') {α : Type} {q : String → Bool} {f : String → Option α}
    (test : ∀ p p', Name.SameClass p p' → q p' = q p) (read : ∀ p p', Name.SameClass p p' → f p' = f p) :
    (r'.parent?.filter q).bind f = (r.parent?.filter q).bind f := by
  have related := recased.related_parent?
  generalize r.parent? = p at related ⊢
  generalize r'.parent? = p' at related ⊢
  cases related with
  | none => rfl
  | @some p p' same =>
    cases passed : q p with
    | true => simp [Option.filter, test p p' same, passed, read p p' same]
    | false => simp [Option.filter, test p p' same, passed]

theorem means_iff (recased : r.Recased r') (P : String → Prop) : r'.Means P ↔ r.Means P := by
  have related := recased.parent
  unfold Means
  generalize r.parent = p at related ⊢
  generalize r'.parent = p' at related ⊢
  cases related with
  | none => exact .rfl
  | some same => exact or_congr (same.eq_word_iff rfl) (by rw [same.lower_eq])

theorem isInside_eq (recased : r.Recased r') (fqn : String) : r'.isInside fqn = r.isInside fqn := by
  have related := related_filter (fun _ _ same => same) recased.enclosing
  unfold isInside
  generalize r.enclosing.filter (!·.isEmpty) = e at related ⊢
  generalize r'.enclosing.filter (!·.isEmpty) = e' at related ⊢
  cases related with
  | none => rfl
  | some same => simp only [Option.map_some, Text.lower_eq_of_sameAscii same]

theorem classNames_eq (recased : r.Recased r') : r'.classNames = r.classNames := by
  have parents : ((r'.parent?.filter (· != "parent")).toList).map Text.lower =
      ((r.parent?.filter (· != "parent")).toList).map Text.lower := by
    rw [← Option.toList_map, ← Option.toList_map, Option.map_eq_bind, Option.map_eq_bind]
    refine congrArg Option.toList (recased.bind_filter_parent? (fun p p' same => ?_) fun p p' same => ?_)
    · rw [Bool.eq_iff_iff, bne_iff_ne, bne_iff_ne, Ne, same.eq_word_iff rfl]
    · simp only [Function.comp, same.lower_eq]
  simp only [classNames, recased.kind_eq, recased.isDynamic_eq, recased.lower_name, parents]

theorem packagesOf_eq (recased : r.Recased r') (m : NamespaceMap) : Rule.packagesOf m r' = Rule.packagesOf m r := by
  have parents := recased.bind_filter_parent? (f := m.ofClass)
    (q := fun p => !(["self", "static", "parent"] : List String).contains p) (fun p p' same => ?_)
    fun p p' same => m.ofClass_eq_of_sameAscii same.ascii
  · simp only [Rule.packagesOf, recased.kind_eq, m.ofClass_eq_of_sameAscii recased.name,
      m.ofFunction_eq_of_sameAscii recased.name, parents]
  · simp only [List.contains_eq_mem, List.mem_cons, List.not_mem_nil, or_false, same.eq_word_iff (w := "self") rfl,
      same.eq_word_iff (w := "static") rfl, same.eq_word_iff (w := "parent") rfl]

/-- No rule reads anything of the capitals. -/
theorem readsAs (recased : r.Recased r') : r.ReadsAs r' where
  kind := recased.kind_eq
  file := by rw [recased.rest]
  isDynamic := recased.isDynamic_eq
  name := recased.lower_name
  shortName := Text.lower_eq_of_sameAscii recased.name.short.symm
  spelled := by
    intro kind
    refine recased.spelled ?_
    simp only [List.mem_cons, List.not_mem_nil, or_false] at kind
    rcases kind with kind | kind | kind | kind <;> rw [kind] <;> rfl
  parent := recased.map_lower_parent?
  means := recased.means_iff
  isInside := recased.isInside_eq
  classNames := recased.classNames_eq
  packages := recased.packagesOf_eq

end Reference.Recased

namespace Context

variable {c : Context} {rs : List Reference}

/-- **Capitals do not matter where the language ignores them.** If references are written with other capitals, every rule
gives the same findings. -/
theorem sameFindings_of_recased (owned : c.Owned) (recased : List.Forall₂ Reference.Recased c.references rs)
    (rule : Rule) : c.SameFindings (c.withReferences rs) rule := by
  obtain ⟨back, there⟩ := exists_related recased
  refine sameFindings_of_shows owned (Rule.shows_of_readsAs fun r given _ => ?_) (Rule.shows_of_readsAs fun r' given _ => ?_)
  · obtain ⟨r', given', same⟩ := there r given
    exact ⟨r', given', same.readsAs⟩
  · obtain ⟨r, given', same⟩ := back r' given
    exact ⟨r, given', same.readsAs.symm⟩

/-- A class with a private method and a private property, all named in small letters. -/
def whispered : Context := {
  table := .ofSymbols [
    { kind := .classType, name := "Foo", space := "App", file := "a.php", startLine := 2 },
    { kind := .method, name := "run", file := "a.php", startLine := 3, visibility := some "private",
      owner := some "App\\Foo" },
    { kind := .property, name := "p", file := "a.php", startLine := 4, visibility := some "private",
      owner := some "App\\Foo" }]
  references := [
    { kind := .instantiation, name := "app\\foo", file := "b.php" },
    { kind := .staticCall, name := "run", parent := some "app\\foo", file := "b.php", enclosing := some "app\\bar" },
    { kind := .staticProperty, name := "p", parent := some "parent", file := "b.php" }] }

/-- The same references in capitals. The name of a property and the word for the parent stay. -/
def shouted : List Reference := [
  { kind := .instantiation, name := "APP\\FOO", file := "b.php" },
  { kind := .staticCall, name := "RUN", parent := some "APP\\FOO", file := "b.php", enclosing := some "APP\\BAR" },
  { kind := .staticProperty, name := "p", parent := some "parent", file := "b.php" }]

theorem sameFindings_shouted : whispered.Owned ∧ List.Forall₂ Reference.Recased whispered.references shouted ∧
    ∀ rule, whispered.SameFindings (whispered.withReferences shouted) rule := by
  have owned : whispered.Owned := by
    unfold Owned
    decide
  have recased : List.Forall₂ Reference.Recased whispered.references shouted :=
    .cons ⟨rfl, by decide, by decide, .none, .none⟩
      (.cons ⟨rfl, by decide, by decide, .some ⟨by decide, by decide⟩, .some (by decide)⟩
        (.cons ⟨rfl, rfl, fun _ => rfl, .some ⟨rfl, fun _ => rfl⟩, .none⟩ .nil))
  exact ⟨owned, recased, sameFindings_of_recased owned recased⟩

end Context
end DeadCode
