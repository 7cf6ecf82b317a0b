import DeadCode.Project.Discover
import DeadCode.Proofs.Clearing
import Mathlib.Data.List.Lex
import Mathlib.Data.String.Basic

/-!
# Source files below a directory

A file given by its own path counts as a source if the ending of its name does, in letters of any case. Below a directory the
characters of the name decide: it has to end in one of the endings as they are written. The two go together but for names in
which the ending has capital letters, and for names that consist of an ending alone (`endsInSource_iff`). `discover_exact` says
which files are found, in which order, and which of them the two ways disagree on.
-/

namespace DeadCode
set_option autoImplicit false

namespace Path

/-- The ending of a name is what follows its last dot, with the dot, unless nothing stands on one of its sides. -/
theorem endingOf_of_append {name : String} {before after : List Char} (chars : name.toList = before ++ '.' :: after)
    (last : '.' ∉ after) : endingOf name = if before.isEmpty || after.isEmpty then "" else String.ofList ('.' :: after) := by
  rw [endingOf, chars, Text.beforeLast?_append before last, Text.afterLast_append before last]

theorem endingOf_of_not_mem {name : String} (none : '.' ∉ name.toList) : endingOf name = "" := by
  rw [endingOf, Text.beforeLast?_of_not_mem none]

/-- A text that can be the ending of a name. -/
structure IsEnding (e : String) (letters : List Char) : Prop where
  chars : e.toList = '.' :: letters
  filled : letters ≠ []
  single : '.' ∉ letters

/-- A name ends in an ending exactly if that is its ending, or all of it. -/
theorem endsWith_iff {e : String} {letters : List Char} (ending : IsEnding e letters) (name : String) :
    Text.endsWith name e = true ↔ name = e ∨ endingOf name = e := by
  have text : String.ofList ('.' :: letters) = e := by rw [← ending.chars, String.ofList_toList]
  rw [Text.endsWith, List.isSuffixOf_iff_suffix, ending.chars]
  constructor
  · rintro ⟨before, chars⟩
    rw [endingOf_of_append chars.symm ending.single, text]
    cases before with
    | nil => exact Or.inl (String.toList_injective (chars.symm.trans ending.chars.symm))
    | cons c before => exact Or.inr (by simp [ending.filled])
  · rintro (rfl | same)
    · exact ⟨[], ending.chars.symm⟩
    · by_cases dot : '.' ∈ name.toList
      · obtain ⟨after, before, chars, last⟩ := List.eq_append_cons_of_mem (List.mem_reverse.2 dot)
        have chars : name.toList = before.reverse ++ '.' :: after.reverse := by
          rw [← List.reverse_reverse name.toList, chars]
          simp
        rw [endingOf_of_append chars (by simpa using last)] at same
        split at same
        · rw [← same] at ending
          cases ending.chars
        · rw [← text, String.ofList_inj] at same
          rw [chars, same]
          exact List.suffix_append _ _
      · rw [endingOf_of_not_mem dot] at same
        rw [← same] at ending
        cases ending.chars

end Path

namespace Disk

/-- Names are compared one by one, and a list goes before those that it starts. -/
theorem namesBefore_iff {as bs : List String} : namesBefore as bs = true ↔ as = bs ∨ List.Lex (· < ·) as bs := by
  induction as generalizing bs with
  | nil => cases bs <;> simp [namesBefore]
  | cons a as ih =>
    cases bs with
    | nil => simp [namesBefore]
    | cons b bs =>
      rw [namesBefore]
      by_cases same : a = b
      · subst same
        rw [if_pos (beq_self_eq_true a), ih, List.lex_cons_iff, List.cons.injEq, eq_self, true_and]
      · simp only [beq_iff_eq, same, if_false, decide_eq_true_eq, List.cons.injEq, false_and, false_or]
        constructor
        · exact .rel
        · rintro (_ | less | _)
          · exact less
          · exact absurd rfl same

theorem namesBefore_iff_le {as bs : List String} : namesBefore as bs = true ↔ as ≤ bs :=
  namesBefore_iff.trans le_iff_eq_or_lt.symm

/-- The names from a directory on, if a path lies below it. -/
def namesFrom (dir names : List String) : Option (List String) :=
  if dir.isPrefixOf names && dir.length < names.length then some (names.drop dir.length) else none

theorem eq_append_of_namesFrom {dir names ns : List String} (cut : namesFrom dir names = some ns) : names = dir ++ ns := by
  unfold namesFrom at cut
  split at cut
  · next inside =>
    obtain ⟨rest, rfl⟩ := List.isPrefixOf_iff_prefix.1 (Bool.and_eq_true_iff.1 inside).1
    rw [List.drop_left] at cut
    rw [Option.some.inj cut]
  · cases cut

theorem below_eq (d : Disk) (p : Path) : d.below p = ((Assoc.keys d.entries).filterMap (namesFrom p.names)).mergeSort namesBefore := by
  rw [below, Assoc.keys, List.filterMap_map]
  rfl

/-- What lies below a directory comes in the order of the names, and once. -/
theorem pairwise_below (d : Disk) (p : Path) : (d.below p).Pairwise (List.Lex (· < ·)) := by
  have sorted : (d.below p).Pairwise fun as bs => namesBefore as bs = true :=
    List.pairwise_mergeSort (fun a b c => by simpa only [namesBefore_iff_le] using le_trans)
      (fun a b => by simpa only [Bool.or_eq_true, namesBefore_iff_le] using le_total a b) _
  have once : (d.below p).Nodup := by
    rw [below_eq, (List.mergeSort_perm _ _).nodup_iff]
    refine d.distinct.filterMap fun names names' ns cut cut' => ?_
    rw [eq_append_of_namesFrom cut, eq_append_of_namesFrom cut']
  exact (sorted.and once).imp fun ⟨before, ne⟩ => (namesBefore_iff.1 before).resolve_left ne

end Disk

namespace Project

variable {d : Disk} {root f : Path} {excluded : List String}

/-- A file below a directory, with no excluded directory between them. -/
structure Reached (d : Disk) (root : Path) (excluded : List String) (f : Path) : Prop where
  file : d.isFile f = true
  below : ∃ ns, ns ≠ [] ∧ f = { root with names := root.names ++ ns } ∧ ∀ n ∈ ns.dropLast, n ∉ excluded

/-- The name ends in one of the endings, as they are written. -/
def endsInSource (name : String) : Bool := sourceEndings.any (Text.endsWith name)

theorem lower_of_mem_sourceEndings : ∀ e ∈ sourceEndings, Text.lower e = e := by decide

theorem isEnding_of_mem_sourceEndings {e : String} (mem : e ∈ sourceEndings) : ∃ letters, Path.IsEnding e letters := by
  simp only [sourceEndings, List.mem_cons, List.not_mem_nil, or_false] at mem
  rcases mem with rfl | rfl | rfl
  all_goals exact ⟨_, rfl, by decide, by decide⟩

theorem endingOf_of_mem_sourceEndings : ∀ e ∈ sourceEndings, Path.endingOf e = "" := by decide

/-- A name ends like a source exactly if its ending is that of one, in small letters, or if it is nothing else. -/
theorem endsInSource_iff (f : Path) :
    endsInSource f.name = true ↔ f.name ∈ sourceEndings ∨ isSource f = true ∧ Text.lower f.ending = f.ending := by
  have small : f.ending ∈ sourceEndings ↔ isSource f = true ∧ Text.lower f.ending = f.ending := by
    rw [isSource, List.contains_iff_mem]
    constructor
    · intro mem
      have same := lower_of_mem_sourceEndings _ mem
      exact ⟨same.symm ▸ mem, same⟩
    · rintro ⟨mem, same⟩
      exact same ▸ mem
  rw [← small, endsInSource, List.any_eq_true]
  constructor
  · rintro ⟨e, mem, ends⟩
    obtain ⟨letters, ending⟩ := isEnding_of_mem_sourceEndings mem
    rcases (Path.endsWith_iff ending f.name).1 ends with rfl | rfl
    · exact Or.inl mem
    · exact Or.inr mem
  · rintro (mem | mem)
    · obtain ⟨letters, ending⟩ := isEnding_of_mem_sourceEndings mem
      exact ⟨_, mem, (Path.endsWith_iff ending f.name).2 (Or.inl rfl)⟩
    · obtain ⟨letters, ending⟩ := isEnding_of_mem_sourceEndings mem
      exact ⟨_, mem, (Path.endsWith_iff ending f.name).2 (Or.inr rfl)⟩

/-- A name that is an ending has none itself. -/
theorem isSource_of_mem_sourceEndings (mem : f.name ∈ sourceEndings) : isSource f = false := by
  rw [isSource, Path.ending, endingOf_of_mem_sourceEndings _ mem]
  decide

/-- Below a directory, the files are found whose names end like those of sources. -/
theorem mem_discover_iff (directory : d.isFile root = false) :
    f ∈ discover d root excluded ↔ Reached d root excluded f ∧ endsInSource f.name = true := by
  have last {ns : List String} (filled : ns ≠ []) :
      ({ root with names := root.names ++ ns } : Path).name = ns.getLast?.getD "" := by
    rw [Path.name, List.getLast?_append_of_ne_nil _ filled]
  have passed (ns : List String) : (!ns.dropLast.any excluded.contains) = true ↔ ∀ n ∈ ns.dropLast, n ∉ excluded := by
    simp
  simp only [discover, directory, Bool.false_eq_true, if_false, List.mem_map, List.mem_filter, Bool.and_eq_true, passed]
  constructor
  · rintro ⟨ns, ⟨below, ⟨apart, ends⟩, file⟩, rfl⟩
    have filled := (Disk.mem_below.1 below).1
    exact ⟨⟨file, ns, filled, rfl, apart⟩, (last filled).symm ▸ ends⟩
  · rintro ⟨⟨file, ns, filled, rfl, apart⟩, ends⟩
    rw [last filled] at ends
    exact ⟨ns, ⟨Disk.mem_below.2 ⟨filled, Disk.mem_keys_of_isFile file⟩, ⟨apart, ends⟩, file⟩, rfl⟩

theorem pairwise_discover (directory : d.isFile root = false) :
    (discover d root excluded).Pairwise fun f g => List.Lex (· < ·) f.names g.names := by
  rw [discover, directory, if_neg (by simp), List.pairwise_map]
  exact ((d.pairwise_below root).filter _).imp fun less => less.append_left _ _

/-- **The files found below a directory.** They come in the order of their names, none twice. Found is every file that no
excluded directory hides and that counts as a source by an ending in small letters, and every one whose name is an ending and
nothing else. So being found and counting as a source are the same but for these names and for endings with capitals. -/
theorem discover_exact (directory : d.isFile root = false) :
    (discover d root excluded).Pairwise (fun f g => List.Lex (· < ·) f.names g.names) ∧
    (∀ f, f ∈ discover d root excluded ↔
      Reached d root excluded f ∧ (f.name ∈ sourceEndings ∨ isSource f = true ∧ Text.lower f.ending = f.ending)) ∧
    ∀ f, Reached d root excluded f →
      ((f ∈ discover d root excluded ↔ isSource f = true) ↔
        f.name ∉ sourceEndings ∧ (isSource f = true → Text.lower f.ending = f.ending)) := by
  have found (f : Path) : f ∈ discover d root excluded ↔
      Reached d root excluded f ∧ (f.name ∈ sourceEndings ∨ isSource f = true ∧ Text.lower f.ending = f.ending) := by
    rw [mem_discover_iff directory, endsInSource_iff]
  refine ⟨pairwise_discover directory, found, fun f reached => ?_⟩
  rw [found]
  by_cases only : f.name ∈ sourceEndings
  · simp [reached, only, isSource_of_mem_sourceEndings only]
  · simp [reached, only]

/-- A directory with names in all kinds of letters. -/
def shopFiles : Disk where
  entries :=
    let file : Entry := .file [] (Decimal.ofInt 1)
    [(["shop"], .directory), (["shop", "Cart.php"], file), (["shop", "Till.PHP"], file), (["shop", ".php"], file),
      (["shop", "vendor"], .directory), (["shop", "vendor", "tax.inc"], file)]

theorem discover_exact_shop :
    ⟨.root, ["shop", "Cart.php"]⟩ ∈ discover shopFiles ⟨.root, ["shop"]⟩ ["vendor"] ∧
    ⟨.root, ["shop", "vendor", "tax.inc"]⟩ ∉ discover shopFiles ⟨.root, ["shop"]⟩ ["vendor"] ∧
    (discover shopFiles ⟨.root, ["shop"]⟩ ["vendor"]).Pairwise fun f g => List.Lex (· < ·) f.names g.names := by
  obtain ⟨sorted, found, -⟩ := @discover_exact shopFiles ⟨.root, ["shop"]⟩ ["vendor"] (by decide)
  refine ⟨(found _).2 ⟨⟨by decide, ["Cart.php"], by decide, rfl, by simp⟩, Or.inr (by decide)⟩, fun hidden => ?_, sorted⟩
  obtain ⟨⟨-, ns, -, eq, apart⟩, -⟩ := (found _).1 hidden
  obtain rfl : ["vendor", "tax.inc"] = ns := by simpa using eq
  exact apart "vendor" (by decide) (by decide)

/-- A source with a capital ending is passed over below its directory, and a name without an ending is found. -/
theorem discover_capitals :
    Reached shopFiles ⟨.root, ["shop"]⟩ [] ⟨.root, ["shop", "Till.PHP"]⟩ ∧ isSource ⟨.root, ["shop", "Till.PHP"]⟩ = true ∧
    ⟨.root, ["shop", "Till.PHP"]⟩ ∉ discover shopFiles ⟨.root, ["shop"]⟩ [] ∧
    isSource ⟨.root, ["shop", ".php"]⟩ = false ∧ ⟨.root, ["shop", ".php"]⟩ ∈ discover shopFiles ⟨.root, ["shop"]⟩ [] := by
  have directory : shopFiles.isFile ⟨.root, ["shop"]⟩ = false := by decide
  refine ⟨⟨by decide, ["Till.PHP"], by decide, rfl, by simp⟩, by decide, fun found => ?_, by decide, ?_⟩
  · exact absurd ((mem_discover_iff directory).1 found).2 (by decide)
  · exact (mem_discover_iff directory).2 ⟨⟨by decide, [".php"], by decide, rfl, by simp⟩, by decide⟩

end Project
end DeadCode
