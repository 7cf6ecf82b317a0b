import DeadCode.Proofs.ClassUses
import DeadCode.Proofs.LongestPrefix

/-!
# Packages that nothing needs

The rule about dependencies joins two files and the references of the code: the packages that one file requires, the
namespaces that the other gives to packages, and the names that the code speaks of. A package is reported, once, if it is
required, is a package in the proper sense, is not to be ignored, and no reference belongs to it
(`unused_packages_exact`). What a name belongs to is the matter of `NamespaceMap.Provides`.
-/

namespace DeadCode
set_option autoImplicit false

/-- A section of a package file has the name among its keys, in small letters. -/
def Packages.Requires (composer : Json) (section_ name : String) : Prop :=
  ∃ ms, composer.get? section_ = some (.obj ms) ∧ ∃ m ∈ ms, Text.lower m.1 = name

namespace Package

variable {composer : Json} {key : String} {forDev : Bool}

/-- A package in the proper sense: neither the platform nor one that only configures the installation. -/
def IsProper (name : String) : Prop := isPlatform name = false ∧ name ∉ configuring

theorem mem_ofSection {p : Package} : p ∈ ofSection composer key forDev ↔
    Packages.Requires composer key p.name ∧ IsProper p.name ∧ p.forDev = forDev := by
  unfold ofSection Packages.Requires IsProper
  split
  · next ms eq =>
    simp only [eq, Option.some.injEq, Json.obj.injEq, exists_eq_left', List.mem_map, List.mem_filter, Bool.and_eq_true,
      Bool.not_eq_true', List.contains_eq_mem, decide_eq_false_iff_not]
    constructor
    · rintro ⟨n, ⟨⟨m, mem, rfl⟩, proper⟩, rfl⟩
      exact ⟨⟨m, mem, rfl⟩, proper, rfl⟩
    · rintro ⟨⟨m, mem, eq⟩, proper, rfl⟩
      exact ⟨p.name, ⟨⟨m, mem, eq⟩, proper⟩, rfl⟩
  · next other =>
    simp only [List.not_mem_nil, false_iff]
    rintro ⟨⟨ms, eq, -⟩, -⟩
    exact other ms eq

theorem mem_firstOfName {seen : List String} {ps : List Package} {p : Package} :
    p ∈ firstOfName seen ps ↔ p.name ∉ seen ∧ ps.find? (·.name == p.name) = some p := by
  induction ps generalizing seen with
  | nil => simp [firstOfName]
  | cons q ps ih =>
    rw [firstOfName, List.find?_cons]
    by_cases here : q.name = p.name
    · simp only [here, beq_self_eq_true, List.contains_eq_mem, decide_eq_true_eq, Option.some.injEq]
      split
      · next old => simp [ih, old]
      · next new =>
        rw [List.mem_cons, ih]
        simp only [List.mem_cons, not_true_eq_false, false_and, or_false, new, not_false_eq_true, true_and]
        exact eq_comm
    · rw [beq_eq_false_iff_ne.2 here]
      have other : p ≠ q := fun eq => here (congrArg name eq.symm)
      split
      · exact ih
      · rw [List.mem_cons, ih]
        simp [other, Ne.symm here]

theorem nodup_firstOfName (seen : List String) (ps : List Package) : ((firstOfName seen ps).map name).Nodup := by
  induction ps generalizing seen with
  | nil => exact List.nodup_nil
  | cons q ps ih =>
    rw [firstOfName]
    split
    · exact ih seen
    · rw [List.map_cons, List.nodup_cons]
      refine ⟨fun again => ?_, ih _⟩
      obtain ⟨p, later, eq⟩ := List.mem_map.1 again
      exact (mem_firstOfName.1 later).1 (eq ▸ List.mem_cons_self)

/-- A section lists a name in one way only. -/
theorem find?_ofSection {p : Package} :
    (ofSection composer key forDev).find? (·.name == p.name) = some p ↔ p ∈ ofSection composer key forDev := by
  refine ⟨List.mem_of_find?_eq_some, fun mem => ?_⟩
  cases found : (ofSection composer key forDev).find? (·.name == p.name) with
  | none => exact absurd (beq_self_eq_true p.name) (List.find?_eq_none.1 found p mem)
  | some q =>
    have name : q.name = p.name := by simpa using List.find?_some found
    have same := (mem_ofSection.1 (List.mem_of_find?_eq_some found)).2.2.trans (mem_ofSection.1 mem).2.2.symm
    cases p
    cases q
    simp_all

/-- The declared packages are the proper ones that are required. One is for development if it is not required for use. -/
theorem mem_declared {p : Package} : p ∈ declared composer ↔ IsProper p.name ∧
    (Packages.Requires composer "require" p.name ∧ p.forDev = false ∨
      ¬Packages.Requires composer "require" p.name ∧ Packages.Requires composer "require-dev" p.name ∧ p.forDev = true) := by
  rw [declared, mem_firstOfName, List.find?_append, Option.or_eq_some_iff, find?_ofSection, find?_ofSection, mem_ofSection,
    mem_ofSection]
  have unlisted : (ofSection composer "require" false).find? (·.name == p.name) = none ↔
      ¬(Packages.Requires composer "require" p.name ∧ IsProper p.name) := by
    rw [List.find?_eq_none]
    constructor
    · rintro none ⟨required, proper⟩
      exact none ⟨p.name, false⟩ (mem_ofSection.2 ⟨required, proper, rfl⟩) (beq_self_eq_true _)
    · rintro not q mem same
      obtain ⟨required, proper, -⟩ := mem_ofSection.1 mem
      rw [beq_iff_eq.1 same] at required proper
      exact not ⟨required, proper⟩
  rw [unlisted]
  simp only [List.not_mem_nil, not_false_eq_true, true_and]
  tauto

end Package

namespace NamespaceMap

/-- The packages of a section of a lock file. -/
def itemsOf (lock : Json) (section_ : String) : List Json := (sectionItems (lock.get? section_)).toOption.getD []

/-- The namespaces of a project with the packages that they are given to: those of the locked packages, then its own. -/
def entriesOf (composer lock : Json) : List (String × String) :=
  let project := ((composer.get? "name").bind Json.str?).getD projectName
  (itemsOf lock "packages" ++ itemsOf lock "packages-dev").flatMap packageEntries ++
    (autoloaded ((composer.get? "autoload").getD .null)).map fun space => (space, project)

/-- The sections of a lock file can be gone through. -/
def IsListed (lock : Json) : Prop :=
  ∀ key ∈ ["packages", "packages-dev"], ∀ v, lock.get? key = some v → v.isSet = true → v.elements?.isSome = true

theorem sectionItems_of_isListed {lock : Json} (listed : IsListed lock) {key : String}
    (mem : key ∈ ["packages", "packages-dev"]) : sectionItems (lock.get? key) = .ok (itemsOf lock key) := by
  have all := listed key mem
  rw [itemsOf]
  cases at_ : lock.get? key with
  | none => rfl
  | some v =>
    rw [sectionItems]
    by_cases set : v.isSet = true
    · obtain ⟨xs, eq⟩ := Option.isSome_iff_exists.1 (all v at_ set)
      simp only [set, eq, Bool.not_true, Bool.false_eq_true, if_false]
      rfl
    · simp only [set, Bool.not_false, if_true]
      rfl

/-- The map of a project is made from these entries. -/
theorem ofProject_eq (composer : Json) {lock : Json} (listed : IsListed lock) :
    ofProject composer lock = .ok (ofEntries (entriesOf composer lock)) := by
  rw [ofProject, sectionItems_of_isListed listed (by simp), sectionItems_of_isListed listed (by simp)]
  rw [entriesOf]
  cases composer.get? "name" with
  | none => rfl
  | some v => cases v <;> rfl

/-- The namespace of an entry is not empty, unless it is written with separators only. -/
theorem spaceOf_ne_empty {e : String × String} {c : Char} (mem : c ∈ e.1.toList) (other : c ≠ '\\') : spaceOf e ≠ "" := by
  intro empty
  have trimmed : Text.trimBoth (· == '\\') e.1 = "" := Text.lower_eq_empty empty
  have stays : (c == '\\') = false := beq_eq_false_iff_ne.2 other
  have kept : c ∈ (Text.trimBoth (· == '\\') e.1).toList := by
    rw [Text.trimBoth, Text.trimEnd, Text.trimStart, String.toList_ofList, String.toList_ofList, Text.dropTrailing,
      List.mem_reverse]
    exact mem_dropWhile (List.mem_reverse.2 (mem_dropWhile mem stays)) stays
  rw [trimmed] at kept
  cases kept

/-- A namespace that is declared has more in it than separators. -/
theorem exists_mem_of_autoloaded {autoload : Json} {space : String} (mem : space ∈ autoloaded autoload) :
    ∃ c ∈ space.toList, c ≠ '\\' := by
  obtain ⟨standard, -, here⟩ := List.mem_flatMap.1 mem
  split at here
  · next ms _ =>
    obtain ⟨listed, filled⟩ := List.mem_filter.1 here
    obtain ⟨m, -, rfl⟩ := List.mem_map.1 listed
    rw [Text.trimEnd, Text.dropTrailing, String.toList_ofList] at *
    cases rest : m.1.toList.reverse.dropWhile (· == '\\') with
    | nil => simp [rest] at filled
    | cons c cs =>
      refine ⟨c, by simp, ?_⟩
      have head := List.head?_dropWhile_not (· == '\\') m.1.toList.reverse
      rw [rest] at head
      simpa using head
  · cases here

theorem spaceOf_ne_empty_of_mem {composer lock : Json} {e : String × String} (mem : e ∈ entriesOf composer lock) :
    spaceOf e ≠ "" := by
  have declared : ∃ autoload, e.1 ∈ autoloaded autoload := by
    rcases List.mem_append.1 mem with locked | own
    · obtain ⟨package, -, here⟩ := List.mem_flatMap.1 locked
      rw [packageEntries] at here
      split at here
      · obtain ⟨space, listed, rfl⟩ := List.mem_map.1 here
        exact ⟨_, listed⟩
      · cases here
    · obtain ⟨space, listed, rfl⟩ := List.mem_map.1 own
      exact ⟨_, listed⟩
  obtain ⟨autoload, listed⟩ := declared
  obtain ⟨c, inside, other⟩ := exists_mem_of_autoloaded listed
  exact spaceOf_ne_empty inside other

/-- No package is that of an empty name. -/
theorem not_provides_empty (composer lock : Json) (package : String) :
    ¬Provides (entriesOf composer lock) (lookedUp "") package := by
  rintro ⟨space, within, -, e, last, -⟩
  have mem := List.mem_of_getLast? last
  simp only [List.mem_filter, beq_iff_eq] at mem
  rcases within with eq | ⟨rest, eq⟩
  · exact spaceOf_ne_empty_of_mem mem.1 (mem.2.trans eq.symm)
  · have length := congrArg String.length eq
    have one : "\\".length = 1 := rfl
    simp [lookedUp, Text.trimStart, Text.lower] at length
    omega

end NamespaceMap

namespace Rule

open NamespaceMap (Provides lookedUp entriesOf)

/-- A known reference to a class, an import, a static call or the call of a function belongs to a package: by its name, which
for a function means its namespace, or by the class before it, unless that is a word for the class at hand. -/
structure Needs (es : List (String × String)) (r : Reference) (package : String) : Prop where
  known : r.isDynamic = false
  kind : r.kind.namesClass = true ∨ r.kind.isImport = true ∨ r.kind = .staticCall ∨ r.kind = .functionCall
  belongs : (r.kind ≠ .functionCall ∧ Provides es (lookedUp r.name) package) ∨
    (r.kind = .functionCall ∧ ∃ space last, '\\' ∉ last.toList ∧ lookedUp r.name = space ++ "\\" ++ last ∧
      Provides es space package) ∨
    ∃ parent, r.parent = some parent ∧ parent ∉ ["self", "static", "parent"] ∧ Provides es (lookedUp parent) package

section Uses

variable {composer lock : Json} {r : Reference} {package : String}

theorem mem_packagesOf_parent :
    (r.parent?.filter fun p => !(["self", "static", "parent"] : List String).contains p).bind
        (NamespaceMap.ofEntries (entriesOf composer lock)).ofClass = some package ↔
      ∃ parent, r.parent = some parent ∧ parent ∉ ["self", "static", "parent"] ∧
        Provides (entriesOf composer lock) (lookedUp parent) package := by
  rw [Option.bind_eq_some_iff]
  refine exists_congr fun parent => ?_
  simp only [Reference.parent?, Option.filter_eq_some_iff, NamespaceMap.ofClass_eq_some_iff, Bool.not_eq_true',
    List.contains_eq_mem, decide_eq_false_iff_not, and_assoc]
  refine and_congr_right fun _ => ⟨fun h => h.2, fun h => ⟨?_, h⟩⟩
  -- an empty name has no package
  refine Bool.eq_false_iff.2 fun empty => NamespaceMap.not_provides_empty composer lock package ?_
  rw [← String.isEmpty_iff.1 empty]
  exact h.2

theorem mem_packagesOf : package ∈ packagesOf (.ofEntries (entriesOf composer lock)) r ↔
    (r.kind ≠ .functionCall ∧ Provides (entriesOf composer lock) (lookedUp r.name) package) ∨
    (r.kind = .functionCall ∧ ∃ space last, '\\' ∉ last.toList ∧ lookedUp r.name = space ++ "\\" ++ last ∧
      Provides (entriesOf composer lock) space package) ∨
    ∃ parent, r.parent = some parent ∧ parent ∉ ["self", "static", "parent"] ∧
      Provides (entriesOf composer lock) (lookedUp parent) package := by
  rw [packagesOf, List.mem_append, Option.mem_toList, Option.mem_toList, mem_packagesOf_parent, ← or_assoc]
  refine or_congr_left ?_
  by_cases call : r.kind = .functionCall
  · simp only [call, beq_self_eq_true, if_true, NamespaceMap.ofFunction_eq_some_iff, ne_eq,
      not_true_eq_false, false_and, false_or, true_and]
  · simp only [call, beq_iff_eq, if_false, NamespaceMap.ofClass_eq_some_iff, ne_eq, not_false_eq_true,
      true_and, false_and, or_false]

theorem mem_usedPackages_iff {c : Context} {d : Dependencies} (given : d.namespaces = .ofEntries (entriesOf composer lock)) :
    package ∈ usedPackages c d ↔ ∃ r ∈ c.references, Needs (entriesOf composer lock) r package := by
  rw [mem_usedPackages, given]
  refine exists_congr fun r => and_congr_right fun _ => ?_
  rw [mem_packagesOf, needsPackage]
  simp only [Bool.and_eq_true, Bool.or_eq_true, beq_iff_eq, Bool.not_eq_true', or_assoc]
  exact ⟨fun h => ⟨h.1.2, h.1.1, h.2⟩, fun h => ⟨⟨h.kind, h.known⟩, h.belongs⟩⟩

end Uses

/-- The packages that the rule has findings about. -/
def unusedPackages (c : Context) (d : Dependencies) : List Package :=
  d.packages.filter fun p => !(usedPackages c d).contains p.name &&
    !Glob.matchesSymbol p.name c.settings.ignoreDependencies

/-- There is one finding for each of them. -/
theorem exists_checkDependencies {c : Context} {d : Dependencies} (held : c.dependencies = some d) (severity : Severity) :
    ∃ about : Package → Issue, checkDependencies c severity = (unusedPackages c d).map about ∧
      ∀ p, (about p).symbol = p.name ∧ (about p).severity = if p.forDev then .info else severity := by
  rw [checkDependencies, held]
  exact ⟨_, rfl, fun p => ⟨rfl, rfl⟩⟩

theorem mem_unusedPackages (composer lock : Json) {c : Context} {d : Dependencies} {p : Package}
    (packages : d.packages = Package.declared composer)
    (namespaces : d.namespaces = .ofEntries (entriesOf composer lock)) :
    p ∈ unusedPackages c d ↔ p ∈ Package.declared composer ∧
      Glob.matchesSymbol p.name c.settings.ignoreDependencies = false ∧
      ∀ r ∈ c.references, ¬Needs (entriesOf composer lock) r p.name := by
  rw [unusedPackages, List.mem_filter, packages]
  simp only [Bool.and_eq_true, Bool.not_eq_true', List.contains_eq_mem, decide_eq_false_iff_not,
    mem_usedPackages_iff namespaces, not_exists, not_and]
  exact and_congr_right fun _ => and_comm

end Rule

/-- **The rule about dependencies is exact.** Let the rule be on, and let the package lists of a lock file be such that they
can be gone through. Then the data of the two files can be put together, and the rule gives its findings: each package at
most once, and exactly those in small letters that are keys of one of the two sections of requirements, are no platform and
no configuration, match no pattern of what is to be ignored, and that no reference belongs to. A package that is required
for development only is mentioned, for any other the severity is that of the rule. -/
theorem Context.unused_packages_exact (c : Context) {severity : Severity} (file : String) (composer : Json) {lock : Json}
    (on : c.severity Rule.dependencies.label = some severity) (listed : NamespaceMap.IsListed lock) :
    ∃ d found, Dependencies.ofProject file composer lock = .ok d ∧
      { c with dependencies := some d }.runRule Rule.dependencies.label = .ok found ∧
      (found.map (·.symbol)).Nodup ∧
      (∀ p, p ∈ found.map (·.symbol) ↔
        (Packages.Requires composer "require" p ∨ Packages.Requires composer "require-dev" p) ∧ Package.IsProper p ∧
          Glob.matchesSymbol p c.settings.ignoreDependencies = false ∧
          ∀ r ∈ c.references, ¬Rule.Needs (NamespaceMap.entriesOf composer lock) r p) ∧
      ∀ i ∈ found, (Packages.Requires composer "require" i.symbol → i.severity = severity) ∧
        (¬Packages.Requires composer "require" i.symbol → i.severity = .info) := by
  let d : Dependencies := ⟨file, Package.declared composer, .ofEntries (NamespaceMap.entriesOf composer lock)⟩
  let c' : Context := { c with dependencies := some d }
  have built : Dependencies.ofProject file composer lock = .ok d := by
    rw [Dependencies.ofProject, NamespaceMap.ofProject_eq composer listed]
    rfl
  have ran : c'.runRule Rule.dependencies.label = Rule.dependencies.check c' severity := runRule_label on
  obtain ⟨about, findings, tells⟩ := Rule.exists_checkDependencies (c := c') (d := d) rfl severity
  have symbols : (Rule.checkDependencies c' severity).map (·.symbol) = (Rule.unusedPackages c' d).map Package.name := by
    rw [findings, List.map_map]
    exact List.map_congr_left fun p _ => (tells p).1
  have reported : ∀ p, p ∈ Rule.unusedPackages c' d ↔ _ := fun p =>
    Rule.mem_unusedPackages composer lock rfl rfl
  refine ⟨d, _, built, ran, ?_, fun p => ?_, fun i mem => ?_⟩
  · rw [symbols]
    exact (Package.nodup_firstOfName _ _).sublist (List.filter_sublist.map _)
  · rw [symbols, List.mem_map]
    constructor
    · rintro ⟨q, mem, rfl⟩
      obtain ⟨declared, kept, unused⟩ := (reported q).1 mem
      obtain ⟨proper, required⟩ := Package.mem_declared.1 declared
      refine ⟨?_, proper, kept, unused⟩
      rcases required with ⟨forUse, -⟩ | ⟨-, forDev, -⟩
      · exact Or.inl forUse
      · exact Or.inr forDev
    · rintro ⟨required, proper, kept, unused⟩
      by_cases forUse : Packages.Requires composer "require" p
      · exact ⟨⟨p, false⟩, (reported _).2 ⟨Package.mem_declared.2 ⟨proper, Or.inl ⟨forUse, rfl⟩⟩, kept, unused⟩, rfl⟩
      · have forDev := required.resolve_left forUse
        exact ⟨⟨p, true⟩, (reported _).2 ⟨Package.mem_declared.2 ⟨proper, Or.inr ⟨forUse, forDev, rfl⟩⟩, kept, unused⟩, rfl⟩
  · rw [findings] at mem
    obtain ⟨p, given, rfl⟩ := List.mem_map.1 mem
    obtain ⟨-, required⟩ := Package.mem_declared.1 ((reported p).1 given).1
    rw [(tells p).1, (tells p).2]
    rcases required with ⟨forUse, use⟩ | ⟨only, -, dev⟩
    · exact ⟨fun _ => by rw [use]; rfl, fun only => absurd forUse only⟩
    · exact ⟨fun forUse => absurd forUse only, fun _ => by rw [dev]; rfl⟩

section Samples

/-- A package in a lock file, with one namespace. -/
def lockedPackage (name space : String) : Json :=
  .obj [("name", .str name), ("autoload", .obj [("psr-4", .obj [(space, .str "src/")])])]

/-- A project that requires a package twice in different spellings, another one, a version of the language, and a tool. -/
def shopComposer : Json := .obj [
  ("name", .str "Acme/Shop"),
  ("require", .obj [("php", .str ">=8"), ("Acme/Log", .str "*"), ("acme/db", .str "*")]),
  ("require-dev", .obj [("ACME/LOG", .str "*"), ("acme/test", .str "*")]),
  ("autoload", .obj [("psr-4", .obj [("Acme\\Db\\Shop\\", .str "src/")])])]

def shopLock : Json := .obj [
  ("packages", .arr [lockedPackage "Acme/Log" "Acme\\Log\\", lockedPackage "acme/db" "Acme\\Db\\"]),
  ("packages-dev", .arr [lockedPackage "acme/test" "Acme\\Test\\"])]

/-- Code that calls a function of one package, and uses a class of its own below the namespace of another. -/
def shop : Context := {
  references := [{ kind := .functionCall, name := "acme\\LOG\\write" },
    { kind := .instantiation, name := "Acme\\Db\\Shop\\Cart" }] }

/-- The namespaces of the sample. -/
def shopEntries : List (String × String) :=
  [("Acme\\Log", "Acme/Log"), ("Acme\\Db", "acme/db"), ("Acme\\Test", "acme/test"), ("Acme\\Db\\Shop", "Acme/Shop")]

theorem entriesOf_shop : NamespaceMap.entriesOf shopComposer shopLock = shopEntries := by decide +kernel

/-- The packages that the references of the sample belong to. -/
theorem packagesOf_shop :
    shop.references.map (Rule.packagesOf (.ofEntries shopEntries)) = [["acme/log"], ["acme/shop"]] := by
  have log : (NamespaceMap.ofEntries shopEntries).ofFunction "acme\\LOG\\write" = some "acme/log" := by
    refine NamespaceMap.ofFunction_eq_some_iff.2 ⟨"acme\\log", "write", by decide, by decide +kernel, ?_⟩
    have last : (shopEntries.filter (NamespaceMap.spaceOf · == "acme\\log")).getLast? = some ("Acme\\Log", "Acme/Log") := by
      decide +kernel
    exact NamespaceMap.provides_of_covers (by decide +kernel) (by decide +kernel) last
  have cart : (NamespaceMap.ofEntries shopEntries).ofClass "Acme\\Db\\Shop\\Cart" = some "acme/shop" := by
    refine NamespaceMap.ofClass_eq_some_iff.2 ?_
    have last : (shopEntries.filter (NamespaceMap.spaceOf · == "acme\\db\\shop")).getLast? =
        some ("Acme\\Db\\Shop", "Acme/Shop") := by decide +kernel
    exact NamespaceMap.provides_of_covers (by decide +kernel) (by decide +kernel) last
  generalize NamespaceMap.ofEntries shopEntries = m at log cart ⊢
  simp [shop, Rule.packagesOf, Reference.parent?, Option.filter, log, cart]

theorem Context.unused_packages_exact_shop :
    shop.severity Rule.dependencies.label = some .warning ∧ NamespaceMap.IsListed shopLock ∧
      ∃ d found, Dependencies.ofProject "composer.json" shopComposer shopLock = .ok d ∧
        { shop with dependencies := some d }.runRule Rule.dependencies.label = .ok found ∧
        (∃ i ∈ found, i.symbol = "acme/db" ∧ i.severity = .warning) ∧
        (∃ i ∈ found, i.symbol = "acme/test" ∧ i.severity = .info) ∧
        "php" ∉ found.map (·.symbol) ∧ "acme/log" ∉ found.map (·.symbol) := by
  have listed : NamespaceMap.IsListed shopLock := by
    intro key mem v at_ _
    simp only [List.mem_cons, List.not_mem_nil, or_false] at mem
    rcases mem with rfl | rfl
    · obtain rfl := Option.some.inj at_
      rfl
    · obtain rfl := Option.some.inj at_
      rfl
  have on : shop.severity Rule.dependencies.label = some .warning := by decide +kernel
  obtain ⟨d, found, built, ran, -, reported, severity⟩ := unused_packages_exact shop "composer.json" shopComposer on listed
  have unneeded : ∀ p, p ∉ ["acme/log", "acme/shop"] → ∀ r ∈ shop.references,
      ¬Rule.Needs (NamespaceMap.entriesOf shopComposer shopLock) r p := by
    intro p other r given needs
    have among := List.mem_map_of_mem (f := Rule.packagesOf (.ofEntries shopEntries)) given
    have mem := Rule.mem_packagesOf.2 needs.belongs
    rw [entriesOf_shop] at mem
    rw [packagesOf_shop] at among
    simp only [List.mem_cons, List.not_mem_nil, or_false] at among
    rcases among with eq | eq
    all_goals
      rw [eq, List.mem_singleton] at mem
      exact other (by simp [mem])
  have requiredForUse : Packages.Requires shopComposer "require" "acme/db" :=
    ⟨_, rfl, ("acme/db", .str "*"), by simp, by decide +kernel⟩
  have requiredForDev : Packages.Requires shopComposer "require-dev" "acme/test" :=
    ⟨_, rfl, ("acme/test", .str "*"), by simp, by decide +kernel⟩
  have onlyForDev : ¬Packages.Requires shopComposer "require" "acme/test" := by
    rintro ⟨ms, at_, m, mem, eq⟩
    obtain rfl := Json.obj.inj (Option.some.inj at_)
    simp only [List.mem_cons, List.not_mem_nil, or_false] at mem
    rcases mem with rfl | rfl | rfl
    all_goals
      revert eq
      decide +kernel
  have db := (reported "acme/db").2 ⟨Or.inl requiredForUse, ⟨by decide +kernel, by decide +kernel⟩, rfl,
    unneeded _ (by decide)⟩
  have test := (reported "acme/test").2 ⟨Or.inr requiredForDev, ⟨by decide +kernel, by decide +kernel⟩, rfl,
    unneeded _ (by decide)⟩
  refine ⟨on, listed, d, found, built, ran, ?_, ?_, fun php => ?_, fun log => ?_⟩
  · obtain ⟨i, mem, symbol⟩ := List.mem_map.1 db
    exact ⟨i, mem, symbol, (severity i mem).1 (symbol ▸ requiredForUse)⟩
  · obtain ⟨i, mem, symbol⟩ := List.mem_map.1 test
    exact ⟨i, mem, symbol, (severity i mem).2 (symbol ▸ onlyForDev)⟩
  · obtain ⟨-, proper, -⟩ := (reported "php").1 php
    exact absurd proper.1 (by decide +kernel)
  · obtain ⟨-, -, -, unused⟩ := (reported "acme/log").1 log
    have first := congrArg List.head? packagesOf_shop
    refine unused _ List.mem_cons_self ⟨rfl, by decide, Rule.mem_packagesOf.1 ?_⟩
    rw [entriesOf_shop, Option.some.inj first]
    exact List.mem_cons_self

end Samples

end DeadCode
