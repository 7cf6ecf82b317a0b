import DeadCode.Json.Reader
import DeadCode.Json.Writer
import DeadCode.Proofs.Assoc

/-!
# Data values and their texts

`Written v t` says that the characters `t` write the value `v`, with gaps wherever the format allows them and no key
twice in an object. Reading takes such characters off the front of a text (`readValue_of_written`), so a value within the limits
of the reader (`Plain`) comes back from every text that writes it; both layouts write every plain value.
-/

namespace DeadCode.Json
set_option autoImplicit false

section Texts

variable (start : List Char)

theorem hexNumber?_hexPadded : ∀ n < 32, hexNumber? (Text.hexPadded 4 n) = some n := by decide

theorem readUnit_hexPadded {n : Nat} (h : n < 32) {rest : List Char} (more : rest ≠ []) :
    readUnit (Text.hexPadded 4 n ++ rest) = some (n, rest) := by
  have length : (Text.hexPadded 4 n).length = 4 := by simp [Text.hexPadded]
  have long : ¬(Text.hexPadded 4 n ++ rest).length ≤ 4 := by
    have := List.length_pos_of_ne_nil more
    simp only [List.length_append, length]
    omega
  rw [readUnit, if_neg long, List.take_left' length, List.drop_left' length, hexNumber?_hexPadded n h, Option.map_some]

/-- Reading takes a written character in one step. -/
theorem readText_writeChar (fuel : Nat) (acc : List Char) (c : Char) {rest : List Char} (more : rest ≠ []) :
    readText start (fuel + 1) acc (writeChar c ++ rest) = readText start fuel (c :: acc) rest := by
  by_cases quote : c = '"'
  · subst quote; simp [writeChar, readText, plainEscape?]
  by_cases backslash : c = '\\'
  · subst backslash; simp [writeChar, readText, plainEscape?]
  by_cases feed : c = '\n'
  · subst feed; simp [writeChar, readText, plainEscape?]
  by_cases carriage : c = '\r'
  · subst carriage; simp [writeChar, readText, plainEscape?]
  by_cases tab : c = '\t'
  · subst tab; simp [writeChar, readText, plainEscape?]
  by_cases form : c = '\x0c'
  · subst form; simp [writeChar, readText, plainEscape?]
  by_cases back : c = '\x08'
  · subst back; simp [writeChar, readText, plainEscape?]
  by_cases control : c.toNat < 0x20
  · have plain : ¬(0xd800 ≤ c.toNat ∧ c.toNat ≤ 0xdbff) := by omega
    have valid : c.toNat.isValidChar := c.valid
    have char : unitChar c.toNat = c := by rw [unitChar, if_pos valid, Char.ofNat_toNat]
    simp [writeChar, quote, backslash, feed, carriage, tab, form, back, control, readText,
      readUnit_hexPadded control more, plain, char]
  · simp [writeChar, quote, backslash, feed, carriage, tab, form, back, control, readText]

theorem readText_writeText {fuel : Nat} (acc cs rest : List Char) (enough : cs.length < fuel) :
    readText start fuel acc (cs.flatMap writeChar ++ '"' :: rest) = .ok (String.ofList (acc.reverse ++ cs), rest) := by
  induction cs generalizing fuel acc with
  | nil =>
    obtain ⟨fuel, rfl⟩ : ∃ n, fuel = n + 1 := ⟨fuel - 1, by simp at enough; omega⟩
    simp [readText]
  | cons c cs ih =>
    obtain ⟨fuel, rfl⟩ : ∃ n, fuel = n + 1 := ⟨fuel - 1, by simp at enough; omega⟩
    rw [List.flatMap_cons, List.append_assoc, readText_writeChar start fuel acc c (by simp), ih _ (by simpa using enough)]
    simp

end Texts

/-- What may follow a value: nothing, a gap, a comma or a closing bracket. -/
def Ends (rest : List Char) : Prop := ∀ c ∈ rest.head?, isGap c = true ∨ c = ',' ∨ c = ']' ∨ c = '}'

section Scalars

variable {rest : List Char}

theorem mem_of_ends {c : Char} (ends : Ends (c :: rest)) : c ∈ [' ', '\t', '\n', '\r', ',', ']', '}'] := by
  simpa [isGap, or_assoc] using ends c rfl

theorem digitsOf_append {ds : List Char} (digits : ∀ c ∈ ds, c.isDigit = true) (ends : Ends rest) :
    digitsOf (ds ++ rest) = ds := by
  have stop : digitsOf rest = [] := by
    cases rest with
    | nil => rfl
    | cons c rest =>
      have other : ∀ c ∈ [' ', '\t', '\n', '\r', ',', ']', '}'], ('0' ≤ c && c ≤ '9') = false := by
        simp only [List.forall_mem_cons, List.not_mem_nil, false_implies, implies_true, and_true]
        decide
      rw [digitsOf, List.takeWhile_cons_of_neg (by simp only [other c (mem_of_ends ends), Bool.false_eq_true, not_false_eq_true])]
  have all : ∀ c ∈ ds, ('0' ≤ c && c ≤ '9') = true := digits
  rw [digitsOf] at stop ⊢
  rw [List.takeWhile_append_of_pos all, stop, List.append_nil]

theorem readFraction_of_ends (ends : Ends rest) : readFraction rest = ([], rest) := by
  cases rest with
  | nil => rfl
  | cons c rest =>
    have point : c ≠ '.' := by
      rintro rfl
      exact absurd (mem_of_ends ends) (by decide)
    simp [readFraction, point]

theorem readExponent_of_ends (ends : Ends rest) : readExponent rest = (none, rest) := by
  cases rest with
  | nil => rfl
  | cons c rest =>
    have other : ∀ c ∈ [' ', '\t', '\n', '\r', ',', ']', '}'], (c == 'e' || c == 'E') = false := by
      simp only [List.forall_mem_cons, List.not_mem_nil, false_implies, implies_true, and_true]
      decide
    simp [readExponent, other c (mem_of_ends ends)]

/-- The digits of a number above zero do not start with a zero. -/
theorem head?_toDigits {n : Nat} (positive : 0 < n) : (Nat.toDigits 10 n).head? ≠ some '0' := by
  induction n using Nat.strongRecOn with
  | _ n ih =>
    rcases Nat.lt_or_ge n 10 with small | large
    · have digit : ∀ n < 10, 0 < n → n.digitChar ≠ '0' := by decide
      simpa [Nat.toDigits_of_lt_base small] using digit n small positive
    · rw [Nat.toDigits_of_base_le (by decide) large, List.head?_append_of_ne_nil _ Nat.toDigits_ne_nil]
      exact ih (n / 10) (by omega) (by omega)

theorem natOf_toDigits (n : Nat) : natOf (Nat.toDigits 10 n) = n := Nat.ofDigitChars_ten_toDigits

theorem isDigit_of_mem {n : Nat} {c : Char} (h : c ∈ Nat.toDigits 10 n) : c.isDigit = true :=
  Nat.isDigit_of_mem_toDigits (by decide) (by decide) h

theorem wholeDigits_toDigits (n : Nat) (ends : Ends rest) : wholeDigits (Nat.toDigits 10 n ++ rest) = Nat.toDigits 10 n := by
  rcases Nat.eq_zero_or_pos n with rfl | positive
  · rfl
  · have digits : digitsOf (Nat.toDigits 10 n ++ rest) = Nat.toDigits 10 n :=
      digitsOf_append (fun _ => isDigit_of_mem) ends
    cases eq : Nat.toDigits 10 n with
    | nil => exact absurd eq Nat.toDigits_ne_nil
    | cons d ds =>
      have first : d ≠ '0' := by
        rintro rfl
        exact head?_toDigits positive (by rw [eq]; rfl)
      rw [eq] at digits
      simpa [wholeDigits, first] using digits

theorem readUnsigned_toDigits (neg : Bool) (n : Nat) (ends : Ends rest) :
    readUnsigned neg (Nat.toDigits 10 n ++ rest) = some (.int (if neg then -(n : Int) else n), rest) := by
  have some : (Nat.toDigits 10 n).isEmpty = false := by simp [Nat.toDigits_ne_nil]
  simp [readUnsigned, wholeDigits_toDigits n ends, some, readFraction_of_ends ends, readExponent_of_ends ends,
    natOf_toDigits]

theorem ne_of_isDigit {c d : Char} (digit : c.isDigit = true) (other : d.isDigit = false) : c ≠ d := by
  rintro rfl
  exact absurd digit (by simp [other])

/-- No word of the format starts like a number. -/
theorem find?_wordValues {d : Char} (digit : d.isDigit = true) (t : List Char) :
    wordValues.find? (fun w => w.1.isPrefixOf (d :: t)) = none ∧
      wordValues.find? (fun w => w.1.isPrefixOf ('-' :: d :: t)) = none := by
  have letter : ∀ c : Char, c.isDigit = false → (c == d) = false := fun c other =>
    beq_eq_false_iff_ne.2 (ne_of_isDigit digit other).symm
  constructor
  · simp [wordValues, List.isPrefixOf, letter]
  · simp [wordValues, List.isPrefixOf, letter]

/-- An integer is written with its digits, after a minus if it is below zero. -/
theorem exists_digits (n : Int) : ∃ m d ds, Nat.toDigits 10 m = d :: ds ∧ d.isDigit = true ∧
    ((toString n).toList = d :: ds ∧ n = m ∨ (toString n).toList = '-' :: d :: ds ∧ n = -(m : Int)) := by
  have digits : ∀ m, ∃ d ds, Nat.toDigits 10 m = d :: ds ∧ d.isDigit = true := fun m => by
    obtain ⟨d, ds, eq⟩ := List.exists_cons_of_ne_nil (@Nat.toDigits_ne_nil m 10)
    exact ⟨d, ds, eq, isDigit_of_mem (eq ▸ List.mem_cons_self)⟩
  cases n with
  | ofNat m =>
    obtain ⟨d, ds, eq, digit⟩ := digits m
    exact ⟨m, d, ds, eq, digit, Or.inl ⟨eq ▸ Nat.toList_repr, rfl⟩⟩
  | negSucc m =>
    obtain ⟨d, ds, eq, digit⟩ := digits (m + 1)
    refine ⟨m + 1, d, ds, eq, digit, Or.inr ⟨?_, Int.negSucc_eq m⟩⟩
    rw [show toString (Int.negSucc m) = "-" ++ Nat.repr (m + 1) from rfl, String.toList_append, Nat.toList_repr, eq]
    rfl

theorem readScalar_int {l : Limits} {n : Int} (short : l.allows n = true) (ends : Ends rest) :
    readScalar l ((toString n).toList ++ rest) = .ok (.int n, rest) := by
  obtain ⟨m, d, ds, eq, digit, ⟨text, rfl⟩ | ⟨text, rfl⟩⟩ := exists_digits n
  · have number := readUnsigned_toDigits false m ends
    rw [eq, List.cons_append] at number
    rw [text, List.cons_append, readScalar, (find?_wordValues digit _).1]
    simp [readNumber, ne_of_isDigit digit, number, short]
  · have number := readUnsigned_toDigits true m ends
    rw [eq, List.cons_append] at number
    rw [text, List.cons_append, List.cons_append, readScalar, (find?_wordValues digit _).2]
    simp [readNumber, number, short]

end Scalars

/-- A value without reals and without a key twice in an object, within some limits. -/
inductive Plain : Limits → Json → Prop
  | null {l : Limits} : Plain l .null
  | bool {l : Limits} (b : Bool) : Plain l (.bool b)
  | int {l : Limits} {n : Int} (short : l.allows n = true) : Plain l (.int n)
  | str {l : Limits} (s : String) : Plain l (.str s)
  | arr {l l' : Limits} {xs : List Json} (room : l.inner = some l') (items : ∀ x ∈ xs, Plain l' x) : Plain l (.arr xs)
  | obj {l l' : Limits} {ms : List (String × Json)} (room : l.inner = some l') (members : ∀ m ∈ ms, Plain l' m.2)
      (distinct : (Assoc.keys ms).Nodup) : Plain l (.obj ms)

namespace Limits

variable {l l' : Limits}

theorem allows_congr (same : l'.digits = l.digits) (n : Int) : l'.allows n = l.allows n := by
  rw [allows, allows, same]

/-- Values may be nested to this depth. -/
def Room (depth : Nat) (l : Limits) : Prop := ∀ n ∈ l.depth, depth ≤ n

theorem Room.mono {m n : Nat} (room : l.Room n) (le : m ≤ n) : l.Room m := fun k limit => Nat.le_trans le (room k limit)

theorem Room.exists_inner {n : Nat} (room : l.Room (n + 1)) :
    ∃ l', l.inner = some l' ∧ l'.Room n ∧ l'.digits = l.digits := by
  unfold inner
  cases limit : l.depth with
  | none => exact ⟨l, rfl, by simp [Room, limit], rfl⟩
  | some d =>
    have enough := room d limit
    cases d with
    | zero => omega
    | succ d => exact ⟨_, rfl, by simpa [Room] using enough, rfl⟩

end Limits

namespace Plain

variable {l : Limits}

theorem arr_of_room {n : Nat} {xs : List Json} (room : l.Room (n + 1))
    (each : ∀ l', l'.Room n → l'.digits = l.digits → ∀ x ∈ xs, Plain l' x) : Plain l (.arr xs) := by
  obtain ⟨l', inner, room', digits⟩ := room.exists_inner
  exact .arr inner (each l' room' digits)

theorem obj_of_room {n : Nat} {ms : List (String × Json)} (room : l.Room (n + 1))
    (each : ∀ l', l'.Room n → l'.digits = l.digits → ∀ m ∈ ms, Plain l' m.2) (distinct : (Assoc.keys ms).Nodup) :
    Plain l (.obj ms) := by
  obtain ⟨l', inner, room', digits⟩ := room.exists_inner
  exact .obj inner (each l' room' digits) distinct

theorem allows {n : Int} (plain : Plain l (.int n)) : l.allows n = true := by
  cases plain with
  | int short => exact short

theorem items {xs : List Json} (plain : Plain l (.arr xs)) : ∃ l', l.inner = some l' ∧ ∀ x ∈ xs, Plain l' x := by
  cases plain with
  | arr room each => exact ⟨_, room, each⟩

theorem members {ms : List (String × Json)} (plain : Plain l (.obj ms)) :
    ∃ l', l.inner = some l' ∧ ∀ m ∈ ms, Plain l' m.2 := by
  cases plain with
  | obj room each => exact ⟨_, room, each⟩

end Plain

/-- Blanks, tabs and line feeds, which may stand between tokens. -/
def Gap (g : List Char) : Prop := ∀ c ∈ g, isGap c = true ∧ c ≠ '\r'

mutual

/-- The characters that write a value. Reals are left out, and every key of an object stands once. -/
inductive Written : Json → List Char → Prop
  | null : Written .null "null".toList
  | bool (b : Bool) : Written (.bool b) (if b then "true".toList else "false".toList)
  | int (n : Int) : Written (.int n) (toString n).toList
  | str (s : String) : Written (.str s) ('"' :: s.toList.flatMap writeChar ++ ['"'])
  | emptyArr {g : List Char} (gap : Gap g) : Written (.arr []) ('[' :: g ++ [']'])
  | arr {g t : List Char} {xs : List Json} (gap : Gap g) (items : WrittenItems xs t) : Written (.arr xs) ('[' :: g ++ t)
  | emptyObj {g : List Char} (gap : Gap g) : Written (.obj []) ('{' :: g ++ ['}'])
  | obj {g t : List Char} {ms : List (String × Json)} (gap : Gap g) (members : WrittenMembers ms t)
      (distinct : (ms.map (·.1)).Nodup) : Written (.obj ms) ('{' :: g ++ t)

/-- The items of an array that is not empty, up to its closing bracket. -/
inductive WrittenItems : List Json → List Char → Prop
  | last {x : Json} {t g : List Char} (item : Written x t) (gap : Gap g) : WrittenItems [x] (t ++ g ++ [']'])
  | more {x : Json} {xs : List Json} {t g g' u : List Char} (item : Written x t) (gap : Gap g) (gap' : Gap g')
      (items : WrittenItems xs u) : WrittenItems (x :: xs) (t ++ g ++ ',' :: g' ++ u)

/-- The members of an object that is not empty, up to its closing bracket. -/
inductive WrittenMembers : List (String × Json) → List Char → Prop
  | last {k : String} {v : Json} {t g g' : List Char} (value : Written v t) (gap : Gap g) (gap' : Gap g') :
      WrittenMembers [(k, v)] ('"' :: k.toList.flatMap writeChar ++ '"' :: ':' :: g ++ t ++ g' ++ ['}'])
  | more {k : String} {v : Json} {ms : List (String × Json)} {t g g' g'' u : List Char} (value : Written v t) (gap : Gap g)
      (gap' : Gap g') (gap'' : Gap g'') (members : WrittenMembers ms u) :
      WrittenMembers ((k, v) :: ms) ('"' :: k.toList.flatMap writeChar ++ '"' :: ':' :: g ++ t ++ g' ++ ',' :: g'' ++ u)

end

section Reading

theorem skipGaps_append {g s : List Char} (gap : Gap g) : skipGaps (g ++ s) = skipGaps s := by
  rw [skipGaps, List.dropWhile_append_of_pos fun c mem => (gap c mem).1, skipGaps]

theorem skipGaps_cons {c : Char} (s : List Char) (h : isGap c = false) : skipGaps (c :: s) = c :: s := by
  rw [skipGaps, List.dropWhile_cons_of_neg (by simp [h])]

theorem ends_gap {g : List Char} (gap : Gap g) {c : Char} (close : c = ',' ∨ c = ']' ∨ c = '}') (rest : List Char) :
    Ends (g ++ c :: rest) := by
  cases g with
  | nil => rintro _ ⟨⟩; exact Or.inr close
  | cons b g => rintro _ ⟨⟩; exact Or.inl (gap b List.mem_cons_self).1

/-- A value starts with a character that is neither a gap nor a closing bracket nor a byte order mark. -/
def Starts (t : List Char) : Prop := ∃ c u, t = c :: u ∧ isGap c = false ∧ c ≠ ']' ∧ c ≠ '}' ∧ c ≠ '\uFEFF'

theorem skipGaps_starts {t g : List Char} (starts : Starts t) (gap : Gap g) (rest : List Char) :
    skipGaps (g ++ t ++ rest) = t ++ rest := by
  obtain ⟨c, u, rfl, other, -⟩ := starts
  rw [List.append_assoc, skipGaps_append gap, List.cons_append, skipGaps_cons _ other]

theorem starts_of_written {v : Json} {t : List Char} (h : Written v t) : Starts t := by
  cases h with
  | null => exact ⟨'n', _, rfl, by decide⟩
  | bool b => cases b <;> exact ⟨_, _, rfl, by decide⟩
  | int n =>
    obtain ⟨m, d, ds, -, digit, ⟨text, -⟩ | ⟨text, -⟩⟩ := exists_digits n
    · exact ⟨d, ds, text, by simp [isGap, ne_of_isDigit digit]⟩
    · exact ⟨'-', d :: ds, text, by decide⟩
  | str s => exact ⟨'"', _, rfl, by decide⟩
  | emptyArr gap => exact ⟨'[', _, rfl, by decide⟩
  | arr gap items => exact ⟨'[', _, rfl, by decide⟩
  | emptyObj gap => exact ⟨'{', _, rfl, by decide⟩
  | obj gap members distinct => exact ⟨'{', _, rfl, by decide⟩

theorem starts_of_writtenItems {xs : List Json} {t : List Char} (h : WrittenItems xs t) : Starts t := by
  cases h with
  | last item gap =>
    obtain ⟨c, u, rfl, other⟩ := starts_of_written item
    exact ⟨c, _, rfl, other⟩
  | more item gap gap' items =>
    obtain ⟨c, u, rfl, other⟩ := starts_of_written item
    exact ⟨c, _, rfl, other⟩

theorem starts_of_writtenMembers {ms : List (String × Json)} {t : List Char} (h : WrittenMembers ms t) : Starts t := by
  cases h with
  | last value gap gap' => exact ⟨'"', _, rfl, by decide⟩
  | more value gap gap' gap'' members => exact ⟨'"', _, rfl, by decide⟩

theorem length_le_flatMap_writeChar (cs : List Char) : cs.length ≤ (cs.flatMap writeChar).length := by
  induction cs with
  | nil => exact Nat.le_refl 0
  | cons c cs ih =>
    have some : 0 < (writeChar c).length := by
      rw [writeChar]
      repeat' split
      all_goals simp
    rw [List.flatMap_cons, List.length_append, List.length_cons]
    omega

theorem readValue_scalar (l : Limits) (fuel : Nat) {c : Char} (s : List Char) (text : c ≠ '"') (object : c ≠ '{') (array : c ≠ '[') :
    readValue l (fuel + 1) (c :: s) = readScalar l (c :: s) := by
  simp [readValue, text, object, array]

mutual

/-- **Reading takes a written value off the front of a text.** -/
theorem readValue_of_written {v : Json} {t : List Char} (h : Written v t) {l : Limits} (plain : Plain l v) {fuel : Nat}
    (rest : List Char) (enough : 2 * t.length ≤ fuel) (ends : Ends rest) :
    readValue l fuel (t ++ rest) = .ok (v, rest) := by
  obtain ⟨fuel, rfl⟩ : ∃ n, fuel = n + 1 := by
    obtain ⟨c, u, rfl, -⟩ := starts_of_written h
    exact ⟨fuel - 1, by simp at enough; omega⟩
  cases h with
  | null =>
    rw [show "null".toList = ['n', 'u', 'l', 'l'] from rfl, List.cons_append,
      readValue_scalar l fuel _ (by decide) (by decide) (by decide)]
    simp [readScalar, wordValues, List.isPrefixOf]
  | bool b =>
    cases b
    · rw [if_neg (by decide), show "false".toList = ['f', 'a', 'l', 's', 'e'] from rfl, List.cons_append,
        readValue_scalar l fuel _ (by decide) (by decide) (by decide)]
      simp [readScalar, wordValues, List.isPrefixOf]
    · rw [if_pos rfl, show "true".toList = ['t', 'r', 'u', 'e'] from rfl, List.cons_append,
        readValue_scalar l fuel _ (by decide) (by decide) (by decide)]
      simp [readScalar, wordValues, List.isPrefixOf]
  | int n =>
    have scalar := readScalar_int plain.allows ends
    obtain ⟨m, d, ds, -, digit, ⟨text, -⟩ | ⟨text, -⟩⟩ := exists_digits n
    · rw [text, List.cons_append] at scalar ⊢
      rw [readValue_scalar l fuel _ (ne_of_isDigit digit rfl) (ne_of_isDigit digit rfl) (ne_of_isDigit digit rfl), scalar]
    · rw [text, List.cons_append] at scalar ⊢
      rw [readValue_scalar l fuel _ (by decide) (by decide) (by decide), scalar]
  | str s =>
    have length := length_le_flatMap_writeChar s.toList
    simp only [List.length_append, List.length_cons, List.length_nil] at enough
    simp only [List.cons_append, List.append_assoc, List.nil_append, readValue]
    rw [readText_writeText _ _ _ _ (by omega)]
    simp [Except.map]
  | @emptyArr g gap =>
    have close : skipGaps (g ++ ']' :: rest) = ']' :: rest := by rw [skipGaps_append gap, skipGaps_cons _ (by decide)]
    obtain ⟨l', room, -⟩ := plain.items
    simp [readValue, room, close]
  | @arr g t xs gap items =>
    obtain ⟨l', room, each⟩ := plain.items
    simp only [List.length_append, List.length_cons] at enough
    have tail := readItems_of_written items each [] rest (show 2 * t.length ≤ fuel by omega)
    have skip := skipGaps_starts (starts_of_writtenItems items) gap rest
    obtain ⟨c, u, rfl, -, other, -⟩ := starts_of_writtenItems items
    rw [List.cons_append, List.cons_append, readValue, skip, room]
    simpa [other] using tail
  | @emptyObj g gap =>
    have close : skipGaps (g ++ '}' :: rest) = '}' :: rest := by rw [skipGaps_append gap, skipGaps_cons _ (by decide)]
    obtain ⟨l', room, -⟩ := plain.members
    simp [readValue, room, close]
  | @obj g t ms gap members distinct =>
    obtain ⟨l', room, each⟩ := plain.members
    simp only [List.length_append, List.length_cons] at enough
    have tail := readMembers_of_written members each [] rest (show 2 * t.length ≤ fuel by omega)
    have skip := skipGaps_starts (starts_of_writtenMembers members) gap rest
    obtain ⟨c, u, rfl, -, -, other, -⟩ := starts_of_writtenMembers members
    rw [List.cons_append, List.cons_append, readValue, skip, room]
    simpa [other, Assoc.ofPairs_of_nodup distinct] using tail

theorem readItems_of_written {xs : List Json} {t : List Char} (h : WrittenItems xs t) {l : Limits}
    (plain : ∀ x ∈ xs, Plain l x) {fuel : Nat} (acc : List Json) (rest : List Char) (enough : 2 * t.length ≤ fuel) :
    readItems l fuel acc (t ++ rest) = .ok (.arr (acc.reverse ++ xs), rest) := by
  obtain ⟨fuel, rfl⟩ : ∃ n, fuel = n + 1 := by
    obtain ⟨c, u, rfl, -⟩ := starts_of_writtenItems h
    exact ⟨fuel - 1, by simp at enough; omega⟩
  cases h with
  | @last x t g item gap =>
    simp only [List.length_append, List.length_cons] at enough
    have value := readValue_of_written item (plain x List.mem_cons_self) (g ++ ']' :: rest) (show 2 * t.length ≤ fuel by omega)
      (ends_gap gap (by simp) rest)
    have close : skipGaps (g ++ ']' :: rest) = ']' :: rest := by rw [skipGaps_append gap, skipGaps_cons _ (by decide)]
    simp only [List.append_assoc, List.cons_append, List.nil_append, readItems, value, close]
    simp
  | @more x xs t g g' u item gap gap' items =>
    simp only [List.length_append, List.length_cons] at enough
    have value := readValue_of_written item (plain x List.mem_cons_self) (g ++ ',' :: (g' ++ (u ++ rest))) (show 2 * t.length ≤ fuel by omega)
      (ends_gap gap (by simp) _)
    have comma : skipGaps (g ++ ',' :: (g' ++ (u ++ rest))) = ',' :: (g' ++ (u ++ rest)) := by
      rw [skipGaps_append gap, skipGaps_cons _ (by decide)]
    have skip := skipGaps_starts (starts_of_writtenItems items) gap' rest
    rw [List.append_assoc] at skip
    have tail := readItems_of_written items (fun y mem => plain y (List.mem_cons_of_mem x mem)) (x :: acc) rest (show 2 * u.length ≤ fuel by omega)
    simp only [List.append_assoc, List.cons_append, readItems, value, comma, skip, tail]
    simp

theorem readMembers_of_written {ms : List (String × Json)} {t : List Char} (h : WrittenMembers ms t) {l : Limits}
    (plain : ∀ m ∈ ms, Plain l m.2) {fuel : Nat} (acc : List (String × Json)) (rest : List Char)
    (enough : 2 * t.length ≤ fuel) :
    readMembers l fuel acc (t ++ rest) = .ok (.obj (Assoc.ofPairs (acc.reverse ++ ms)), rest) := by
  obtain ⟨fuel, rfl⟩ : ∃ n, fuel = n + 1 := by
    obtain ⟨c, u, rfl, -⟩ := starts_of_writtenMembers h
    exact ⟨fuel - 1, by simp at enough; omega⟩
  cases h with
  | @last k v t g g' value gap gap' =>
    have length := length_le_flatMap_writeChar k.toList
    simp only [List.length_append, List.length_cons, List.length_nil] at enough
    have item := readValue_of_written value (plain (k, v) List.mem_cons_self) (g' ++ '}' :: rest) (show 2 * t.length ≤ fuel by omega)
      (ends_gap gap' (by simp) rest)
    have skip := skipGaps_starts (starts_of_written value) gap (g' ++ '}' :: rest)
    have close : skipGaps (g' ++ '}' :: rest) = '}' :: rest := by rw [skipGaps_append gap', skipGaps_cons _ (by decide)]
    rw [List.append_assoc] at skip
    simp only [List.append_assoc, List.cons_append, List.nil_append, readMembers]
    rw [readText_writeText _ _ _ _ (by omega)]
    simp only [List.reverse_nil, List.nil_append, String.ofList_toList, skipGaps_cons _ (show isGap ':' = false by decide),
      skip, item, close, List.reverse_cons]
  | @more k v ms t g g' g'' u value gap gap' gap'' members =>
    have length := length_le_flatMap_writeChar k.toList
    simp only [List.length_append, List.length_cons] at enough
    have item := readValue_of_written value (plain (k, v) List.mem_cons_self) (g' ++ ',' :: (g'' ++ (u ++ rest))) (show 2 * t.length ≤ fuel by omega)
      (ends_gap gap' (by simp) _)
    have skip := skipGaps_starts (starts_of_written value) gap (g' ++ ',' :: (g'' ++ (u ++ rest)))
    have comma : skipGaps (g' ++ ',' :: (g'' ++ (u ++ rest))) = ',' :: (g'' ++ (u ++ rest)) := by
      rw [skipGaps_append gap', skipGaps_cons _ (by decide)]
    have next := skipGaps_starts (starts_of_writtenMembers members) gap'' rest
    rw [List.append_assoc] at skip next
    have tail := readMembers_of_written members (fun m mem => plain m (List.mem_cons_of_mem _ mem)) ((k, v) :: acc) rest (show 2 * u.length ≤ fuel by omega)
    simp only [List.append_assoc, List.cons_append, readMembers]
    rw [readText_writeText _ _ _ _ (by omega)]
    simp only [List.reverse_nil, List.nil_append, String.ofList_toList, skipGaps_cons _ (show isGap ':' = false by decide),
      skip, item, comma, next, tail]
    simp

end

/-- A text that writes a value is read as that value. -/
theorem read_of_written {v : Json} {t : List Char} (h : Written v t) {l : Limits} (plain : Plain l v) :
    read (String.ofList t) l = .ok v := by
  have value := readValue_of_written h plain [] (show 2 * t.length ≤ 2 * t.length + 2 by omega) (by simp [Ends])
  obtain ⟨c, u, rfl, other, -, -, mark⟩ := starts_of_written h
  have unmarked : Text.startsWith (String.ofList (c :: u)) "\uFEFF" = false := by
    simp [Text.startsWith, List.isPrefixOf, mark.symm]
  rw [List.append_nil] at value
  simp only [read, unmarked, String.toList_ofList, skipGaps_cons u other, value]
  rfl

end Reading

section LineEnds

theorem return_not_mem_writeChar (c : Char) : '\r' ∉ writeChar c := by
  have digits : ∀ n < 32, '\r' ∉ Text.hexPadded 4 n := by decide
  rw [writeChar]
  repeat' split
  all_goals grind

theorem return_not_mem_gap {g : List Char} (gap : Gap g) : '\r' ∉ g := fun mem => (gap _ mem).2 rfl

theorem return_not_mem_toString (n : Int) : '\r' ∉ (toString n).toList := by
  obtain ⟨m, d, ds, eq, -, text⟩ := exists_digits n
  have digits : '\r' ∉ d :: ds := eq ▸ fun mem => absurd (isDigit_of_mem mem) (by decide)
  rcases text with ⟨text, -⟩ | ⟨text, -⟩
  · rwa [text]
  · rw [text]
    exact fun mem => (List.mem_cons.1 mem).elim (by decide) digits

mutual

theorem return_not_mem_written {v : Json} {t : List Char} (h : Written v t) : '\r' ∉ t := by
  cases h with
  | null => decide
  | bool b => cases b <;> decide
  | int n => exact return_not_mem_toString n
  | str s => simp [return_not_mem_writeChar]
  | emptyArr gap => simp [return_not_mem_gap gap]
  | arr gap items => simp [return_not_mem_gap gap, return_not_mem_items items]
  | emptyObj gap => simp [return_not_mem_gap gap]
  | obj gap members distinct => simp [return_not_mem_gap gap, return_not_mem_members members]

theorem return_not_mem_items {xs : List Json} {t : List Char} (h : WrittenItems xs t) : '\r' ∉ t := by
  cases h with
  | last item gap => simp [return_not_mem_gap gap, return_not_mem_written item]
  | more item gap gap' items =>
    simp [return_not_mem_gap gap, return_not_mem_gap gap', return_not_mem_written item, return_not_mem_items items]

theorem return_not_mem_members {ms : List (String × Json)} {t : List Char} (h : WrittenMembers ms t) : '\r' ∉ t := by
  cases h with
  | last value gap gap' =>
    simp [return_not_mem_writeChar, return_not_mem_gap gap, return_not_mem_gap gap', return_not_mem_written value]
  | more value gap gap' gap'' members =>
    simp [return_not_mem_writeChar, return_not_mem_gap gap, return_not_mem_gap gap', return_not_mem_gap gap'',
      return_not_mem_written value, return_not_mem_members members]

end

end LineEnds

section Layouts

theorem toList_writeText (s : String) : (writeText s).toList = '"' :: s.toList.flatMap writeChar ++ ['"'] := by
  simp [writeText]

variable (f : Json → List Char) {between last : List Char}

/-- Items with a comma and a gap between them. -/
theorem writtenItems_of_texts (gap : Gap between) (gap' : Gap last) (x : Json) (xs : List Json)
    (items : ∀ y ∈ x :: xs, Written y (f y)) :
    WrittenItems (x :: xs) ((',' :: between).intercalate ((x :: xs).map f) ++ last ++ [']']) := by
  induction xs generalizing x with
  | nil =>
    rw [List.map_singleton, List.intercalate_singleton]
    exact .last (items x List.mem_cons_self) gap'
  | cons y xs ih =>
    have tail := ih y fun z mem => items z (List.mem_cons_of_mem x mem)
    have whole := WrittenItems.more (items x List.mem_cons_self) (show Gap [] by simp [Gap]) gap tail
    simpa [List.map_cons] using whole

/-- The text of a member. -/
def memberText (m : String × Json) : List Char :=
  '"' :: m.1.toList.flatMap writeChar ++ '"' :: ':' :: ' ' :: f m.2

/-- Members with a comma and a gap between them. -/
theorem writtenMembers_of_texts (gap : Gap between) (gap' : Gap last) (m : String × Json) (ms : List (String × Json))
    (members : ∀ n ∈ m :: ms, Written n.2 (f n.2)) :
    WrittenMembers (m :: ms) ((',' :: between).intercalate ((m :: ms).map (memberText f)) ++ last ++ ['}']) := by
  have blank : Gap [' '] := by simp [Gap, isGap]
  induction ms generalizing m with
  | nil =>
    have whole := WrittenMembers.last (k := m.1) (members m List.mem_cons_self) blank gap'
    simpa [memberText] using whole
  | cons n ms ih =>
    have tail := ih n fun z mem => members z (List.mem_cons_of_mem m mem)
    have whole := WrittenMembers.more (k := m.1) (members m List.mem_cons_self) blank (show Gap [] by simp [Gap]) gap tail
    simpa [memberText] using whole

theorem toList_join (sep : String) (pieces : List String) :
    (Text.join sep pieces).toList = sep.toList.intercalate (pieces.map String.toList) := String.toList_intercalate

theorem toList_member (f : Json → String) (m : String × Json) :
    (writeText m.1 ++ ": " ++ f m.2).toList = memberText (fun v => (f v).toList) m := by
  simp [memberText, toList_writeText]

theorem compactItems_eq (xs : List Json) : compactItems xs = xs.map compact := by
  induction xs with
  | nil => rfl
  | cons x xs ih => rw [compactItems, ih, List.map_cons]

theorem compactMembers_eq (ms : List (String × Json)) :
    compactMembers ms = ms.map fun m => writeText m.1 ++ ": " ++ compact m.2 := by
  induction ms with
  | nil => rfl
  | cons m ms ih => rw [compactMembers, ih, List.map_cons]

/-- The compact layout writes the value. -/
theorem written_compact {l : Limits} {v : Json} (h : Plain l v) : Written v v.compact.toList := by
  have empty : Gap [] := by simp [Gap]
  have blank : Gap [' '] := by simp [Gap, isGap]
  induction h with
  | null => exact .null
  | bool b => cases b <;> exact .bool _
  | int => exact .int _
  | str s =>
    rw [compact, toList_writeText]
    exact .str s
  | @arr l l' xs room _ ih =>
    cases xs with
    | nil => exact .emptyArr empty
    | cons x xs =>
      have whole := Written.arr empty (writtenItems_of_texts (fun v => v.compact.toList) blank empty x xs ih)
      rw [compact, String.toList_append, String.toList_append, toList_join, compactItems_eq, List.map_map]
      rw [List.append_nil] at whole
      exact whole
  | @obj l l' ms room _ distinct ih =>
    cases ms with
    | nil => exact .emptyObj empty
    | cons m ms =>
      have whole := Written.obj empty (writtenMembers_of_texts (fun v => v.compact.toList) blank empty m ms ih) distinct
      have pieces : (compactMembers (m :: ms)).map String.toList = (m :: ms).map (memberText fun v => v.compact.toList) := by
        rw [compactMembers_eq, List.map_map]
        exact List.map_congr_left fun n _ => toList_member compact n
      rw [compact, String.toList_append, String.toList_append, toList_join, pieces]
      rw [List.append_nil] at whole
      exact whole

/-- A gap in front of every piece is a gap in front of them all and one after every comma. -/
theorem intercalate_map_append {α : Type} (g : List Char) (c : Char) (f : α → List Char) (x : α) (xs : List α) :
    [c].intercalate ((x :: xs).map fun y => g ++ f y) = g ++ (c :: g).intercalate ((x :: xs).map f) := by
  induction xs generalizing x with
  | nil => simp
  | cons y xs ih =>
    have tail := ih y
    simp only [List.map_cons, List.intercalate_cons_cons] at tail ⊢
    rw [tail]
    simp

theorem indentedItems_eq (level : Nat) (xs : List Json) :
    indentedItems level xs = xs.map fun x => newline level ++ indentedAt level x := by
  induction xs with
  | nil => rfl
  | cons x xs ih => rw [indentedItems, ih, List.map_cons]

theorem indentedMembers_eq (level : Nat) (ms : List (String × Json)) :
    indentedMembers level ms = ms.map fun m => newline level ++ (writeText m.1 ++ ": " ++ indentedAt level m.2) := by
  induction ms with
  | nil => rfl
  | cons m ms ih =>
    rw [indentedMembers, ih, List.map_cons]
    simp only [String.append_assoc]

theorem gap_newline (level : Nat) : Gap (newline level).toList := by
  intro c mem
  simp only [newline, String.toList_append, String.toList_ofList, List.mem_append, List.mem_replicate] at mem
  rcases mem with feed | ⟨-, rfl⟩
  · rw [List.mem_singleton.1 feed]
    decide
  · decide

/-- The indented layout writes the value. -/
theorem written_indentedAt {l : Limits} {v : Json} (h : Plain l v) (level : Nat) : Written v (indentedAt level v).toList := by
  have empty : Gap [] := by simp [Gap]
  induction h generalizing level with
  | null => exact .null
  | bool b => cases b <;> exact .bool _
  | int => exact .int _
  | str s =>
    rw [indentedAt, toList_writeText]
    exact .str s
  | @arr l l' xs room _ ih =>
    cases xs with
    | nil =>
      rw [indentedAt]
      exact .emptyArr empty
    | cons x xs =>
      have items := writtenItems_of_texts (fun v => (indentedAt (level + 1) v).toList) (gap_newline (level + 1))
        (gap_newline level) x xs fun y mem => ih y mem (level + 1)
      have whole := Written.arr (gap_newline (level + 1)) items
      have pieces : (indentedItems (level + 1) (x :: xs)).map String.toList =
          (x :: xs).map fun v => (newline (level + 1)).toList ++ (indentedAt (level + 1) v).toList := by
        rw [indentedItems_eq, List.map_map]
        exact List.map_congr_left fun v _ => String.toList_append
      rw [indentedAt, String.toList_append, String.toList_append, String.toList_append, toList_join, pieces,
        show ",".toList = [','] from rfl, intercalate_map_append]
      simp only [List.append_assoc] at whole ⊢
      exact whole
  | @obj l l' ms room _ distinct ih =>
    cases ms with
    | nil =>
      rw [indentedAt]
      exact .emptyObj empty
    | cons m ms =>
      have members := writtenMembers_of_texts (fun v => (indentedAt (level + 1) v).toList) (gap_newline (level + 1))
        (gap_newline level) m ms fun n mem => ih n mem (level + 1)
      have whole := Written.obj (gap_newline (level + 1)) members distinct
      have pieces : (indentedMembers (level + 1) (m :: ms)).map String.toList =
          (m :: ms).map fun n => (newline (level + 1)).toList ++ memberText (fun v => (indentedAt (level + 1) v).toList) n := by
        rw [indentedMembers_eq, List.map_map]
        refine List.map_congr_left fun n _ => ?_
        rw [← toList_member, Function.comp_apply, String.toList_append]
      rw [indentedAt, String.toList_append, String.toList_append, String.toList_append, toList_join, pieces,
        show ",".toList = [','] from rfl, intercalate_map_append]
      simp only [List.append_assoc] at whole ⊢
      exact whole

end Layouts

end DeadCode.Json
