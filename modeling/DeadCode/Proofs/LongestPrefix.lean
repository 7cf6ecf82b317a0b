import DeadCode.Packages.NamespaceMap
import DeadCode.Proofs.Assoc
import DeadCode.Proofs.ImportUse

/-!
# Names and the packages that they come from

A name belongs to the package with the longest namespace that it lies in. All namespaces that one name lies in start it, so
there is one for each length, and the first that fits among the namespaces in order of length is the longest
(`find_eq_some_iff`). Of several entries for one namespace the last one counts, wherever those for others stand. A function
belongs where its namespace does (`attributed_by_longest`).
-/

namespace DeadCode
set_option autoImplicit false

namespace Text

/-- A character that has no lower-case form of its own. -/
def IsSettled (c : Char) : Prop := lowerChar c = c ∧ c.toNat ≠ 0x130 ∧ c.toNat ≠ 0x3a3

/-- The letters that the two special capitals become. -/
theorem isSettled_special : ∀ n ∈ [0x69, 0x307, 0x3c2, 0x3c3], IsSettled (Char.ofNat n) := by
  unfold IsSettled
  decide

/-- The two special capitals have runs of their own. -/
theorem special_mem_lowerRuns : (0x130, 0x130, 1, 0x69) ∈ lowerRuns ∧ (0x3a3, 0x3ab, 1, 0x3c3) ∈ lowerRuns := by
  decide

theorem lowerChar_of_ascii : ∀ n < 128, lowerChar (lowerChar (Char.ofNat n)) = lowerChar (Char.ofNat n) ∧
    (lowerChar (Char.ofNat n)).toNat < 128 := by
  decide

/-- Does one run take nothing that is a lower-case form in another? They lie apart, or one has the even and the other the odd
numbers. -/
def apart (r s : Nat × Nat × Nat × Nat) : Bool :=
  Nat.blt (r.2.2.2 + (r.2.1 - r.1)) s.1 || Nat.blt s.2.1 r.2.2.2 ||
    ((Nat.beq r.1 r.2.1 || Nat.beq (r.2.2.1 % 2) 0) && Nat.beq (s.2.2.1 % 2) 0 && Nat.beq ((r.2.2.2 + s.1) % 2) 1)

theorem lowerRuns_apart : lowerRuns.all (fun r => lowerRuns.all (apart r)) = true := by decide +kernel

/-- A run takes no lower-case form. -/
theorem not_taken_of_apart {r s : Nat × Nat × Nat × Nat} (h : apart r s = true) {n : Nat} (first : r.1 ≤ n)
    (last : n ≤ r.2.1) (step : (n - r.1) % r.2.2.1 = 0) :
    ¬(s.1 ≤ r.2.2.2 + (n - r.1) ∧ r.2.2.2 + (n - r.1) ≤ s.2.1 ∧ (r.2.2.2 + (n - r.1) - s.1) % s.2.2.1 = 0) := by
  rintro ⟨least, most, taken⟩
  simp only [apart, Bool.or_eq_true, Bool.and_eq_true, Nat.blt_eq, Nat.beq_eq] at h
  rcases h with (below | above) | ⟨⟨even | even, even'⟩, odd⟩
  · omega
  · omega
  · have whole := Nat.dvd_trans (Nat.dvd_of_mod_eq_zero even') (Nat.dvd_of_mod_eq_zero taken)
    omega
  · have moved := Nat.dvd_trans (Nat.dvd_of_mod_eq_zero even) (Nat.dvd_of_mod_eq_zero step)
    have whole := Nat.dvd_trans (Nat.dvd_of_mod_eq_zero even') (Nat.dvd_of_mod_eq_zero taken)
    omega

theorem isSettled_of_not_taken {n : Nat} (large : 92 < n)
    (free : ∀ s ∈ lowerRuns, ¬(s.1 ≤ n ∧ n ≤ s.2.1 ∧ (n - s.1) % s.2.2.1 = 0)) : IsSettled (Char.ofNat n) := by
  by_cases valid : n.isValidChar
  · have code : (Char.ofNat n).toNat = n := by
      rw [Char.ofNat, dif_pos valid]
      rfl
    refine ⟨?_, fun dotted => ?_, fun sigma => ?_⟩
    · rw [lowerChar]
      split
      · rw [if_neg]
        simp only [Bool.and_eq_true, decide_eq_true_eq]
        rintro ⟨-, upper⟩
        have le : (Char.ofNat n).toNat ≤ 90 := upper
        omega
      · rw [List.find?_eq_none.2]
        intro s mem
        simpa only [code, Bool.and_eq_true, decide_eq_true_eq, beq_iff_eq, and_assoc] using free s mem
    · refine free (0x130, 0x130, 1, 0x69) special_mem_lowerRuns.1 ?_
      dsimp only
      omega
    · refine free (0x3a3, 0x3ab, 1, 0x3c3) special_mem_lowerRuns.2 ?_
      dsimp only
      omega
  · have null : Char.ofNat n = '\x00' := dif_neg valid
    rw [null]
    exact ⟨by decide, by decide, by decide⟩

/-- The lower-case form of a character has none of its own. -/
theorem isSettled_lowerChar {c : Char} (dotted : c.toNat ≠ 0x130) (sigma : c.toNat ≠ 0x3a3) : IsSettled (lowerChar c) := by
  by_cases ascii : c.toNat < 128
  · obtain ⟨same, small⟩ := lowerChar_of_ascii c.toNat ascii
    rw [Char.ofNat_toNat] at same small
    exact ⟨same, by omega, by omega⟩
  · rw [lowerChar, if_neg ascii]
    cases found : lowerRuns.find? fun r => r.1 ≤ c.toNat && c.toNat ≤ r.2.1 && (c.toNat - r.1) % r.2.2.1 == 0 with
    | none =>
      refine ⟨?_, dotted, sigma⟩
      rw [lowerChar, if_neg ascii, found]
    | some r =>
      have mem := List.mem_of_find?_eq_some found
      have taken := List.find?_some found
      simp only [Bool.and_eq_true, decide_eq_true_eq, beq_iff_eq] at taken
      obtain ⟨⟨first, last⟩, step⟩ := taken
      have image := image_gt_separator r mem
      refine isSettled_of_not_taken (by omega) fun s given => ?_
      exact not_taken_of_apart (List.all_eq_true.1 (List.all_eq_true.1 lowerRuns_apart r mem) s given) first last step

theorem lowerFrom_of_isSettled (before : List Char) {cs : List Char} (settled : ∀ c ∈ cs, IsSettled c) :
    lowerFrom before cs = cs := by
  induction cs generalizing before with
  | nil => rfl
  | cons c cs ih =>
    obtain ⟨same, dotted, sigma⟩ := settled c List.mem_cons_self
    rw [lowerFrom, if_neg dotted, if_neg sigma, same, ih _ fun d mem => settled d (List.mem_cons_of_mem _ mem)]
    rfl

theorem isSettled_of_mem_lowerFrom (before : List Char) {cs : List Char} :
    ∀ c ∈ lowerFrom before cs, IsSettled c := by
  induction cs generalizing before with
  | nil => simp [lowerFrom]
  | cons d cs ih =>
    intro c mem
    rw [lowerFrom] at mem
    rcases List.mem_append.1 mem with here | later
    · split at here
      · rcases List.mem_pair.1 here with rfl | rfl
        · exact isSettled_special 0x69 (by simp)
        · exact isSettled_special 0x307 (by simp)
      · next dotted =>
        split at here
        · rw [List.mem_singleton.1 here]
          split
          · exact isSettled_special _ (by simp)
          · exact isSettled_special _ (by simp)
        · next sigma =>
          rw [List.mem_singleton.1 here]
          exact isSettled_lowerChar dotted sigma
    · exact ih _ c later

/-- A part of a text in small letters is in small letters. -/
theorem lower_of_subset {s t : String} (part : s.toList ⊆ (lower t).toList) : lower s = s := by
  rw [← String.toList_inj, toList_lower]
  refine lowerFrom_of_isSettled [] fun c mem => ?_
  have image := part mem
  rw [toList_lower] at image
  exact isSettled_of_mem_lowerFrom [] c image

/-- A text that does not start with a separator does not do so in small letters. -/
theorem startsWith_lower {s : String} (h : startsWith s "\\" = false) : startsWith (lower s) "\\" = false := by
  have separator : "\\".toList = ['\\'] := rfl
  rw [startsWith, separator, toList_lower]
  rw [startsWith, separator] at h
  cases chars : s.toList with
  | nil => rfl
  | cons c cs =>
    have other : c ≠ '\\' := by
      rintro rfl
      simp [chars] at h
    rw [lowerFrom]
    split
    · rfl
    · split
      · split
        · rfl
        · rfl
      · simpa [List.isPrefixOf] using Ne.symm (lowerChar_ne_separator other)

theorem startsWith_trimStart (s : String) : startsWith (trimStart (· == '\\') s) "\\" = false := by
  have separator : "\\".toList = ['\\'] := rfl
  rw [startsWith, separator, trimStart, String.toList_ofList]
  induction s.toList with
  | nil => rfl
  | cons c cs ih =>
    rw [List.dropWhile_cons]
    split
    · exact ih
    · next other => simpa [List.isPrefixOf] using Ne.symm (by simpa using other)

end Text

namespace NamespaceMap

/-- The namespace of an entry, as names are compared with it. -/
def spaceOf (e : String × String) : String := Text.lower (Text.trimBoth (· == '\\') e.1)

/-- A name as it is looked up. -/
def lookedUp (name : String) : String := Text.lower (Text.trimStart (· == '\\') name)

/-- The package of a name: that of the last entry for the longest namespace that the name lies in. -/
def Provides (es : List (String × String)) (name package : String) : Prop :=
  ∃ space, Name.Within space name ∧ (∀ d ∈ es, Name.Within (spaceOf d) name → (spaceOf d).length ≤ space.length) ∧
    ∃ e, (es.filter (spaceOf · == space)).getLast? = some e ∧ Text.lower e.2 = package

theorem covers_iff {space name : String} : covers space name = true ↔ Name.Within space name := by
  rw [covers, Bool.or_eq_true, beq_iff_eq, Text.startsWith, List.isPrefixOf_iff_prefix, Name.Within]
  apply or_congr_right
  constructor
  · rintro ⟨rest, eq⟩
    refine ⟨String.ofList rest, ?_⟩
    rw [← String.toList_inj, ← eq]
    simp
  · rintro ⟨rest, eq⟩
    refine ⟨rest.toList, ?_⟩
    rw [eq]
    simp

/-- The package of a name, by a search through the entries. -/
theorem provides_of_covers {es : List (String × String)} {space name : String} {e : String × String}
    (covered : covers space name = true)
    (longest : ∀ d ∈ es, covers (spaceOf d) name = true → (spaceOf d).length ≤ space.length)
    (last : (es.filter (spaceOf · == space)).getLast? = some e) : Provides es name (Text.lower e.2) :=
  ⟨space, covers_iff.1 covered, fun d given within => longest d given (covers_iff.2 within), e, last, rfl⟩

/-- Of the namespaces that a name lies in, there is one of each length. -/
theorem eq_of_within {a b name : String} (inA : Name.Within a name) (inB : Name.Within b name)
    (length : a.length = b.length) : a = b := by
  have starts : ∀ {c : String}, Name.Within c name → c.toList <+: name.toList := by
    rintro c (rfl | ⟨rest, rfl⟩)
    · exact List.prefix_refl _
    · rw [String.append_assoc, String.toList_append]
      exact List.prefix_append _ _
  have lengths : a.toList.length = b.toList.length := by rw [String.length_toList, String.length_toList, length]
  have starts' := List.prefix_of_prefix_length_le (starts inA) (starts inB) (Nat.le_of_eq lengths)
  exact String.toList_inj.1 (starts'.eq_of_length lengths)

theorem pairwise_byLength (m : NamespaceMap) : m.byLength.Pairwise fun d e => e.1.length ≤ d.1.length := by
  have trans (a b c : String × String) (ab : decide (b.1.length ≤ a.1.length) = true)
      (bc : decide (c.1.length ≤ b.1.length) = true) : decide (c.1.length ≤ a.1.length) = true :=
    decide_eq_true ((of_decide_eq_true bc).trans (of_decide_eq_true ab))
  have total (a b : String × String) :
      (decide (b.1.length ≤ a.1.length) || decide (a.1.length ≤ b.1.length)) = true := by
    rw [Bool.or_eq_true, decide_eq_true_iff, decide_eq_true_iff]
    exact Nat.le_total _ _
  exact (List.pairwise_mergeSort trans total m.entries).imp of_decide_eq_true

theorem mem_byLength {m : NamespaceMap} {e : String × String} : e ∈ m.byLength ↔ e ∈ m.entries :=
  (List.mergeSort_perm m.entries _).mem_iff

/-- What is found is the entry for the longest namespace that a name lies in. -/
theorem mem_of_find {m : NamespaceMap} {name package : String} (found : m.find name = some package) :
    ∃ space, (space, package) ∈ m.entries ∧ Name.Within space name ∧
      ∀ d ∈ m.entries, Name.Within d.1 name → d.1.length ≤ space.length := by
  obtain ⟨e, first, rfl⟩ := Option.map_eq_some_iff.1 found
  obtain ⟨covered, before, after, split, passed⟩ := List.find?_eq_some_iff_append.1 first
  have sorted := m.pairwise_byLength
  rw [split] at sorted
  have shorter := (List.pairwise_cons.1 (List.pairwise_append.1 sorted).2.1).1
  refine ⟨e.1, mem_byLength.1 (split ▸ by simp), covers_iff.1 covered, fun d given within => ?_⟩
  rw [← mem_byLength, split] at given
  rcases List.mem_append.1 given with early | here
  · have none := passed d early
    rw [covers_iff.2 within] at none
    cases none
  · rcases List.mem_cons.1 here with rfl | late
    · exact Nat.le_refl _
    · exact shorter d late

theorem find_eq_none_iff {m : NamespaceMap} {name : String} :
    m.find name = none ↔ ∀ d ∈ m.entries, ¬Name.Within d.1 name := by
  rw [find, Option.map_eq_none_iff, List.find?_eq_none]
  simp only [covers_iff, mem_byLength]

section Entries

variable {es : List (String × String)} {space name package : String}

theorem entries_ofEntries (es : List (String × String)) :
    (ofEntries es).entries = Assoc.ofPairs (es.map fun e => (spaceOf e, Text.lower e.2)) := rfl

/-- The last entry for a namespace counts. -/
theorem get?_ofEntries (es : List (String × String)) (space : String) :
    Assoc.get? (ofEntries es).entries space = ((es.filter (spaceOf · == space)).getLast?).map (Text.lower ·.2) := by
  rw [entries_ofEntries, Assoc.get?_ofPairs, List.filter_map, List.getLast?_map, Option.map_map]
  simp only [Function.comp_def]

theorem exists_mem_entries_iff : (∃ package, (space, package) ∈ (ofEntries es).entries) ↔ ∃ e ∈ es, spaceOf e = space := by
  have distinct : (Assoc.keys (ofEntries es).entries).Nodup := Assoc.nodup_keys_ofPairs _
  have held : (∃ package, (space, package) ∈ (ofEntries es).entries) ↔
      ∃ package, Assoc.get? (ofEntries es).entries space = some package :=
    exists_congr fun package => ⟨Assoc.get?_of_mem distinct, Assoc.mem_of_get?⟩
  have given : (∃ e ∈ es, spaceOf e = space) ↔ es.filter (spaceOf · == space) ≠ [] := by
    simp only [ne_eq, List.filter_eq_nil_iff, beq_iff_eq, not_forall, not_not, exists_prop]
  rw [held, given, get?_ofEntries, ← Option.isSome_iff_exists, Option.isSome_map, List.getLast?_isSome]

/-- The namespaces of the map are those of the entries. -/
theorem forall_entries_iff (P : String → Prop) : (∀ d ∈ (ofEntries es).entries, P d.1) ↔ ∀ e ∈ es, P (spaceOf e) := by
  constructor
  · intro all e given
    have held : ∃ package, (spaceOf e, package) ∈ (ofEntries es).entries := exists_mem_entries_iff.2 ⟨e, given, rfl⟩
    obtain ⟨package, mem⟩ := held
    have here := all (spaceOf e, package) mem
    dsimp only at here
    exact here
  · intro all d given
    obtain ⟨e, mem, eq⟩ := exists_mem_entries_iff.1 ⟨d.2, given⟩
    rw [← eq]
    exact all e mem

/-- **The longest namespace counts.** -/
theorem find_eq_some_iff : (ofEntries es).find name = some package ↔ Provides es name package := by
  have distinct : (Assoc.keys (ofEntries es).entries).Nodup := Assoc.nodup_keys_ofPairs _
  constructor
  · intro found
    obtain ⟨space, mem, within, longest⟩ := mem_of_find found
    have held := Assoc.get?_of_mem distinct mem
    rw [get?_ofEntries] at held
    obtain ⟨e, last, lower⟩ := Option.map_eq_some_iff.1 held
    have longest := (forall_entries_iff fun s => Name.Within s name → s.length ≤ space.length).1 longest
    exact ⟨space, within, longest, e, last, lower⟩
  · rintro ⟨space, within, longest, e, last, lower⟩
    have held : Assoc.get? (ofEntries es).entries space = some package := by rw [get?_ofEntries, last, ← lower]; rfl
    have mem := Assoc.mem_of_get? held
    cases found : (ofEntries es).find name with
    | none => exact absurd within (find_eq_none_iff.1 found _ mem)
    | some other =>
      obtain ⟨space', mem', within', longest'⟩ := mem_of_find found
      -- each of the two namespaces is at least as long as the other
      have le := longest' _ mem within
      have ge := (forall_entries_iff fun s => Name.Within s name → s.length ≤ space.length).2 longest _ mem' within'
      obtain rfl := eq_of_within within within' (Nat.le_antisymm le ge)
      rw [Assoc.get?_of_mem distinct mem'] at held
      exact held

theorem ofEntries_find_eq_none_iff : (ofEntries es).find name = none ↔ ∀ e ∈ es, ¬Name.Within (spaceOf e) name := by
  rw [find_eq_none_iff]
  exact forall_entries_iff fun s => ¬Name.Within s name

/-- Entries for different namespaces may be given in any order. -/
theorem find_eq_of_filter_eq {es' : List (String × String)}
    (same : ∀ space, es'.filter (spaceOf · == space) = es.filter (spaceOf · == space)) (name : String) :
    (ofEntries es').find name = (ofEntries es).find name := by
  have given : ∀ d, d ∈ es' ↔ d ∈ es := fun d => by
    have mem := congrArg (d ∈ ·) (same (spaceOf d))
    simpa using mem
  refine Option.ext fun package => ?_
  rw [find_eq_some_iff, find_eq_some_iff, Provides, Provides]
  simp only [same, given]

end Entries

section Functions

variable {name space last : String}

/-- What stands before the last segment of a name that is looked up is looked up as it is. -/
theorem lookedUp_of_segments (segments : lookedUp name = space ++ "\\" ++ last) : lookedUp space = space := by
  have relative : Text.startsWith (lookedUp name) "\\" = false :=
    Text.startsWith_lower (Text.startsWith_trimStart name)
  have unrooted : Text.trimStart (· == '\\') space = space := by
    refine Name.unrooted_eq (Bool.eq_false_iff.2 fun rooted => ?_)
    obtain ⟨rest, rfl⟩ := Name.exists_of_rooted rooted
    rw [segments] at relative
    simp [Text.startsWith] at relative
  rw [lookedUp, unrooted]
  refine Text.lower_of_subset (t := Text.trimStart (· == '\\') name) ?_
  rw [← lookedUp, segments, String.append_assoc, String.toList_append]
  exact List.subset_append_left _ _

/-- A function belongs where its namespace does. -/
theorem ofFunction_of_segments (m : NamespaceMap) (single : '\\' ∉ last.toList)
    (segments : lookedUp name = space ++ "\\" ++ last) : m.ofFunction name = m.ofClass space := by
  have chars : (lookedUp name).toList = space.toList ++ '\\' :: last.toList := by
    rw [segments]
    simp
  delta ofFunction ofClass
  rw [← lookedUp, ← lookedUp, lookedUp_of_segments segments, chars, Text.beforeLast?_append _ single]
  simp only [String.ofList_toList]

theorem ofFunction_of_single (m : NamespaceMap) (single : '\\' ∉ (lookedUp name).toList) : m.ofFunction name = none := by
  have none := Text.beforeLast?_of_not_mem single
  rw [lookedUp] at none
  delta ofFunction
  rw [none]

theorem ofClass_eq_some_iff {es : List (String × String)} {package : String} :
    (ofEntries es).ofClass name = some package ↔ Provides es (lookedUp name) package := find_eq_some_iff

/-- A function has a package if its name has a namespace, and then that of the namespace. -/
theorem ofFunction_eq_some_iff {es : List (String × String)} {package : String} :
    (ofEntries es).ofFunction name = some package ↔
      ∃ space last, '\\' ∉ last.toList ∧ lookedUp name = space ++ "\\" ++ last ∧ Provides es space package := by
  constructor
  · intro found
    by_cases single : '\\' ∈ (lookedUp name).toList
    · obtain ⟨after, before, split, fresh⟩ := List.eq_append_cons_of_mem (List.mem_reverse.2 single)
      have segments : lookedUp name = String.ofList before.reverse ++ "\\" ++ String.ofList after.reverse := by
        rw [← String.toList_inj, ← List.reverse_inj, split]
        simp
      have lastSingle : '\\' ∉ (String.ofList after.reverse).toList := by simpa using fresh
      rw [ofFunction_of_segments _ lastSingle segments, ofClass_eq_some_iff, lookedUp_of_segments segments] at found
      exact ⟨_, _, lastSingle, segments, found⟩
    · rw [ofFunction_of_single _ single] at found
      cases found
  · rintro ⟨space, last, single, segments, provides⟩
    rw [ofFunction_of_segments _ single segments, ofClass_eq_some_iff, lookedUp_of_segments segments]
    exact provides

end Functions

/-- **Names belong to the package with the longest namespace.** For all entries and every name: a class has a package if and
only if it lies in one of the namespaces, and then it is that of the last entry for the longest of them. A function outside
any namespace has none, another one has that of its name without the last segment. Nothing changes if entries for different
namespaces are given in another order. -/
theorem attributed_by_longest (es : List (String × String)) (name : String) :
    ((ofEntries es).ofClass name = none ↔ ∀ e ∈ es, ¬Name.Within (spaceOf e) (lookedUp name)) ∧
      (∀ package, (ofEntries es).ofClass name = some package ↔ Provides es (lookedUp name) package) ∧
      ('\\' ∉ (lookedUp name).toList → (ofEntries es).ofFunction name = none) ∧
      (∀ space last, '\\' ∉ last.toList → lookedUp name = space ++ "\\" ++ last →
        (ofEntries es).ofFunction name = (ofEntries es).ofClass space) ∧
      ∀ es', (∀ space, es'.filter (spaceOf · == space) = es.filter (spaceOf · == space)) →
        (ofEntries es').ofClass name = (ofEntries es).ofClass name ∧
          (ofEntries es').ofFunction name = (ofEntries es).ofFunction name := by
  refine ⟨ofEntries_find_eq_none_iff, fun package => ofClass_eq_some_iff, ofFunction_of_single _,
    fun space last single segments => ofFunction_of_segments _ single segments, fun es' same => ⟨?_, ?_⟩⟩
  · exact find_eq_of_filter_eq same _
  · delta ofFunction
    cases Text.beforeLast? '\\' (Text.lower (Text.trimStart (· == '\\') name)).toList with
    | none => rfl
    | some space => exact find_eq_of_filter_eq same _

section Samples

/-- Two entries for one namespace, one for a shorter namespace and one for a longer word. -/
def logEntries : List (String × String) :=
  [("\\Acme\\Log\\", "acme/log"), ("Acme", "Acme/Core"), ("ACME\\LOG", "Acme/Monolog"), ("Acme\\Logger", "acme/logger")]

/-- The same with the first two in the other order. -/
def logEntriesSwapped : List (String × String) :=
  [("Acme", "Acme/Core"), ("\\Acme\\Log\\", "acme/log"), ("ACME\\LOG", "Acme/Monolog"), ("Acme\\Logger", "acme/logger")]

theorem attributed_by_longest_log :
    (ofEntries logEntries).ofClass "\\Acme\\Log\\Writer" = some "acme/monolog" ∧
      (ofEntries logEntries).ofClass "Acmeish\\Log" = none ∧
      (ofEntries logEntries).ofFunction "acme\\LOGGER\\open" = (ofEntries logEntries).ofClass "acme\\logger" ∧
      (ofEntries logEntries).ofFunction "strlen" = none ∧
      (ofEntries logEntriesSwapped).ofClass "Acme\\Log" = (ofEntries logEntries).ofClass "Acme\\Log" := by
  have same : ∀ space, logEntriesSwapped.filter (spaceOf · == space) = logEntries.filter (spaceOf · == space) := by
    intro space
    have apart : spaceOf ("\\Acme\\Log\\", "acme/log") ≠ spaceOf ("Acme", "Acme/Core") := by decide +kernel
    rw [logEntries, logEntriesSwapped]
    generalize spaceOf = f at apart ⊢
    simp only [List.filter_cons]
    by_cases first : f ("\\Acme\\Log\\", "acme/log") = space
    · have other : f ("Acme", "Acme/Core") ≠ space := fun eq => apart (first.trans eq.symm)
      simp [first, other]
    · simp [first]
  obtain ⟨-, some', -, -, -⟩ := attributed_by_longest logEntries "\\Acme\\Log\\Writer"
  obtain ⟨none', -⟩ := attributed_by_longest logEntries "Acmeish\\Log"
  obtain ⟨-, -, -, qualified, -⟩ := attributed_by_longest logEntries "acme\\LOGGER\\open"
  obtain ⟨-, -, plain, -⟩ := attributed_by_longest logEntries "strlen"
  obtain ⟨-, -, -, -, order⟩ := attributed_by_longest logEntries "Acme\\Log"
  refine ⟨(some' _).2 ?_, ?_, ?_, ?_, (order _ same).1⟩
  · have last : (logEntries.filter (spaceOf · == "acme\\log")).getLast? = some ("ACME\\LOG", "Acme/Monolog") := by
      decide +kernel
    exact provides_of_covers (by decide +kernel) (by decide +kernel) last
  · refine none'.2 fun e given => ?_
    rw [← covers_iff]
    revert e
    decide +kernel
  · exact qualified "acme\\logger" "open" (by decide) (by decide +kernel)
  · exact plain (by decide +kernel)

end Samples

end NamespaceMap

end DeadCode
