import DeadCode.Json.Merge
import DeadCode.Proofs.Assoc

/-!
# Objects laid over each other

What stands at each key of a merged object follows from what the two objects hold there (`get?_mergeMembers`). So a merge goes
leaf by leaf along any path of keys: the leaves of the upper object are all there, what the lower object holds stays wherever
the upper one holds nothing on the way, and no path is new (`merge_leafwise`). Laying the same object over the result again
changes nothing, not even the order of the members (`mergeValue_mergeValue`).
-/

namespace DeadCode.Json
set_option autoImplicit false

/-- The value at a path of keys. -/
def valueAt? : Json → List String → Option Json
  | v, [] => some v
  | v, k :: ks => (v.get? k).bind (valueAt? · ks)

/-- A value in which no object has a key twice, down to the first values that are no objects. -/
inductive KeyedOnce : Json → Prop
  | leaf {v : Json} (leaf : v.isObj = false) : KeyedOnce v
  | obj {ms : List (String × Json)} (members : ∀ m ∈ ms, KeyedOnce m.2) (distinct : (Assoc.keys ms).Nodup) :
      KeyedOnce (.obj ms)

section Keys

variable {lower upper : List (String × Json)}

theorem mergeValue_of_leaf {v : Json} (leaf : v.isObj = false) (lower : Option Json) : mergeValue lower v = v := by
  rw [mergeValue]
  rintro ms ns - rfl
  cases leaf

/-- At each key of a merged object, the upper value lies over the lower one. -/
theorem get?_mergeMembers (distinct : (Assoc.keys upper).Nodup) (k : String) :
    Assoc.get? (mergeMembers lower upper) k =
      ((Assoc.get? upper k).map (mergeValue (Assoc.get? lower k))).or (Assoc.get? lower k) := by
  induction upper generalizing lower with
  | nil => simp [mergeMembers, Assoc.get?]
  | cons m upper ih =>
    obtain ⟨k', v⟩ := m
    obtain ⟨fresh, distinct⟩ := List.nodup_cons.1 distinct
    rw [mergeMembers, ih distinct, Assoc.get?]
    by_cases here : k' = k
    · -- the key does not come again, so what was set first stays
      subst here
      have none : Assoc.get? upper k' = none :=
        Option.eq_none_iff_forall_ne_some.2 fun w found => fresh (Assoc.mem_keys_of_get? found)
      simp [none]
    · rw [Assoc.get?_set_of_ne _ _ (Ne.symm here), if_neg (by simpa using here)]

/-- An object that has taken in the members of another one is not changed by them. -/
theorem mergeMembers_of_taken {ms : List (String × Json)}
    (taken : ∀ m ∈ upper, ∃ v, Assoc.get? ms m.1 = some v ∧ mergeValue (some v) m.2 = v) : mergeMembers ms upper = ms := by
  induction upper with
  | nil => rfl
  | cons m upper ih =>
    obtain ⟨⟨v, held, same⟩, others⟩ := List.forall_mem_cons.1 taken
    rw [mergeMembers, held, same, Assoc.set_of_get? held, ih others]

/-- **Merging twice is merging once.** -/
theorem mergeValue_mergeValue {v : Json} (once : KeyedOnce v) (lower : Option Json) :
    mergeValue (some (mergeValue lower v)) v = mergeValue lower v := by
  induction once generalizing lower with
  | leaf leaf => rw [mergeValue_of_leaf leaf, mergeValue_of_leaf leaf]
  | @obj upper _ distinct ih =>
    have held {m : String × Json} (mem : m ∈ upper) : Assoc.get? upper m.1 = some m.2 := Assoc.get?_of_mem distinct mem
    -- below an object the members were merged, and over anything else the object stands as it is
    have taken : mergeMembers upper upper = upper := mergeMembers_of_taken fun m mem =>
      ⟨m.2, held mem, by simpa [mergeValue] using ih m mem none⟩
    match lower with
    | some (.obj lower) =>
      have again : mergeMembers (mergeMembers lower upper) upper = mergeMembers lower upper := by
        refine mergeMembers_of_taken fun m mem => ⟨mergeValue (Assoc.get? lower m.1) m.2, ?_, ih m mem _⟩
        rw [get?_mergeMembers distinct, held mem]
        rfl
      simp only [mergeValue, again]
    | none | some .null | some (.bool _) | some (.int _) | some (.real _) | some (.str _) | some (.arr _) =>
      simp only [mergeValue, taken]

end Keys

section Paths

variable {v w x : Json} {ks : List String}

theorem exists_obj_of_get? {k : String} (found : v.get? k = some w) : ∃ ms, v = .obj ms ∧ Assoc.get? ms k = some w := by
  cases v with
  | obj ms => exact ⟨ms, rfl, found⟩
  | _ => cases found

theorem valueAt?_cons {k : String} (found : v.valueAt? (k :: ks) = some x) :
    ∃ ms w, v = .obj ms ∧ Assoc.get? ms k = some w ∧ w.valueAt? ks = some x := by
  obtain ⟨w, here, below⟩ := Option.bind_eq_some_iff.1 found
  obtain ⟨ms, rfl, held⟩ := exists_obj_of_get? here
  exact ⟨ms, w, rfl, held, below⟩

theorem KeyedOnce.members {ms : List (String × Json)} (once : KeyedOnce (.obj ms)) :
    (Assoc.keys ms).Nodup ∧ ∀ {k w}, Assoc.get? ms k = some w → KeyedOnce w := by
  cases once with
  | leaf leaf => cases leaf
  | obj members distinct => exact ⟨distinct, fun held => members _ (Assoc.mem_of_get? held)⟩

/-- Over what is no object, the upper value stands as it is. -/
theorem mergeValue_cases (lower : Option Json) (v : Json) :
    mergeValue lower v = v ∨ ∃ ms ns, lower = some (.obj ms) ∧ v = .obj ns ∧ mergeValue lower v = .obj (mergeMembers ms ns) := by
  cases v with
  | obj ns =>
    match lower with
    | some (.obj ms) => exact Or.inr ⟨ms, ns, rfl, rfl, rfl⟩
    | none | some .null | some (.bool _) | some (.int _) | some (.real _) | some (.str _) | some (.arr _) => exact Or.inl rfl
  | _ => exact Or.inl (mergeValue_of_leaf rfl lower)

/-- The leaves of the upper value are all there. -/
theorem valueAt?_merge_upper (once : KeyedOnce v) (lower : Option Json) (found : v.valueAt? ks = some x)
    (leaf : x.isObj = false) : (mergeValue lower v).valueAt? ks = some x := by
  induction ks generalizing v lower with
  | nil =>
    obtain rfl := Option.some.inj found
    rw [mergeValue_of_leaf leaf]
    rfl
  | cons k ks ih =>
    rcases mergeValue_cases lower v with same | ⟨ms, ns, rfl, rfl, merged⟩
    · rw [same, found]
    · obtain ⟨_, w, eq, held, below⟩ := valueAt?_cons found
      obtain rfl := Json.obj.inj eq
      obtain ⟨distinct, inside⟩ := once.members
      rw [merged, valueAt?, get?, get?_mergeMembers distinct, held]
      exact ih (inside held) (Assoc.get? ms k) below

/-- What the lower value holds stays where the upper one holds nothing, and only objects on the way there. -/
theorem valueAt?_merge_lower (once : KeyedOnce v) (found : w.valueAt? ks = some x) (free : v.valueAt? ks = none)
    (way : ∀ js u, js <+: ks → v.valueAt? js = some u → u.isObj = true) : (mergeValue (some w) v).valueAt? ks = some x := by
  induction ks generalizing v w with
  | nil => cases free
  | cons k ks ih =>
    obtain ⟨ms, u, rfl, held, below⟩ := valueAt?_cons found
    cases v with
    | obj ns =>
      obtain ⟨distinct, inside⟩ := once.members
      rw [mergeValue, valueAt?, get?, get?_mergeMembers distinct, held]
      cases above : Assoc.get? ns k with
      | none => exact below
      | some v' =>
        have step (js : List String) : (Json.obj ns).valueAt? (k :: js) = v'.valueAt? js := by
          rw [valueAt?, get?, above, Option.bind_some]
        refine ih (inside above) below ((step ks).symm.trans free) fun js u before there => ?_
        exact way (k :: js) u (List.cons_prefix_cons.2 ⟨rfl, before⟩) ((step js).trans there)
    | _ => cases way [] _ List.nil_prefix rfl

/-- Every path of a merged value leads somewhere in one of the two. -/
theorem isSome_of_valueAt?_merge (once : KeyedOnce v) (lower : Option Json)
    (found : (mergeValue lower v).valueAt? ks = some x) :
    (lower.bind (valueAt? · ks)).isSome = true ∨ (v.valueAt? ks).isSome = true := by
  induction ks generalizing v lower with
  | nil => exact Or.inr rfl
  | cons k ks ih =>
    rcases mergeValue_cases lower v with same | ⟨ms, ns, rfl, rfl, merged⟩
    · exact Or.inr (Option.isSome_iff_exists.2 ⟨x, same ▸ found⟩)
    · obtain ⟨distinct, inside⟩ := once.members
      rw [merged, valueAt?, get?, get?_mergeMembers distinct] at found
      simp only [Option.bind_some, valueAt?, get?]
      cases above : Assoc.get? ns k with
      | none =>
        rw [above] at found
        exact Or.inl (Option.isSome_iff_exists.2 ⟨x, found⟩)
      | some v' =>
        rw [above] at found
        exact ih (inside above) (Assoc.get? ms k) found

end Paths

/-- **A merge goes leaf by leaf, and once is enough.** Every value of the upper object that is no object is at its path. Every
value of the lower one is at its path, unless the upper one holds a value there, or one that is no object on the way. Every
path is one of the two objects. Merging again changes nothing. -/
theorem merge_leafwise (base : List (String × Json)) {override : List (String × Json)} (once : KeyedOnce (.obj override)) :
    (∀ ks x, (Json.obj override).valueAt? ks = some x → x.isObj = false →
      (merge (.obj base) (.obj override)).valueAt? ks = some x) ∧
    (∀ ks x, (Json.obj base).valueAt? ks = some x → (Json.obj override).valueAt? ks = none →
      (∀ js u, js <+: ks → (Json.obj override).valueAt? js = some u → u.isObj = true) →
      (merge (.obj base) (.obj override)).valueAt? ks = some x) ∧
    (∀ ks, ((merge (.obj base) (.obj override)).valueAt? ks).isSome = true →
      ((Json.obj base).valueAt? ks).isSome = true ∨ ((Json.obj override).valueAt? ks).isSome = true) ∧
    merge (merge (.obj base) (.obj override)) (.obj override) = merge (.obj base) (.obj override) := by
  refine ⟨fun ks x found leaf => valueAt?_merge_upper once _ found leaf,
    fun ks x found free way => valueAt?_merge_lower once found free way, fun ks found => ?_, mergeValue_mergeValue once _⟩
  obtain ⟨x, found⟩ := Option.isSome_iff_exists.1 found
  exact isSome_of_valueAt?_merge once _ found

/-- Settings below those of a project. -/
def lowerSettings : List (String × Json) :=
  [("cache", .obj [("enabled", .bool true), ("directory", .str "here")]), ("strict", .bool false), ("output", .str "text")]

/-- Settings of a project, with an object in the place of a text. -/
def upperSettings : List (String × Json) :=
  [("cache", .obj [("directory", .str "there")]), ("output", .obj [("format", .str "csv")])]

theorem merge_leafwise_settings :
    KeyedOnce (.obj upperSettings) ∧
    (merge (.obj lowerSettings) (.obj upperSettings)).valueAt? ["output", "format"] = some (.str "csv") ∧
    (merge (.obj lowerSettings) (.obj upperSettings)).valueAt? ["cache", "enabled"] = some (.bool true) ∧
    ((Json.obj lowerSettings).valueAt? ["strict"]).isSome = true ∧
    merge (merge (.obj lowerSettings) (.obj upperSettings)) (.obj upperSettings) =
      merge (.obj lowerSettings) (.obj upperSettings) := by
  have leaf {k s : String} : ∀ m ∈ [(k, Json.str s)], KeyedOnce m.2 :=
    List.forall_mem_singleton.2 (.leaf rfl)
  have once : KeyedOnce (.obj upperSettings) :=
    .obj (List.forall_mem_cons.2 ⟨.obj leaf (by decide), List.forall_mem_singleton.2 (.obj leaf (by decide))⟩) (by decide)
  obtain ⟨upper, lower, paths, again⟩ := merge_leafwise lowerSettings once
  refine ⟨once, upper _ _ rfl rfl, lower _ _ rfl rfl ?_, (paths ["strict"] rfl).resolve_right (by decide), again⟩
  intro js u before there
  rcases List.prefix_cons_iff.1 before with rfl | ⟨js, rfl, more⟩
  · cases there
    rfl
  rcases List.prefix_cons_iff.1 more with rfl | ⟨js, rfl, -⟩
  · cases there
    rfl
  · cases there

end DeadCode.Json
