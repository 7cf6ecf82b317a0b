import DeadCode.Glob
import DeadCode.Proofs.LetterShapes
import DeadCode.Proofs.SearchPatterns

/-!
# What patterns match

A name or a path matches a pattern if it is made of pieces, one for each part of the pattern in order, that the parts
stand for (`Composed`). In a pattern for names every character is a part (`NamePart`). A pattern for paths is cut into
signs and single characters from left to right, the longest sign first (`AreTokens`, `PathPart`). The matcher tries every
piece that a token can take, so it finds the pieces if there are any (`accepts_iff`).
-/

namespace DeadCode.Glob
set_option autoImplicit false
open Text

/-- The pieces that a token takes of a text without line ends. -/
def Token.Takes : Token → List Char → Prop
  | .anyText, _ => True
  | .anyName, piece => '/' ∉ piece
  | .directories, piece => piece = [] ∨ ['/'] <:+ piece
  | .anyChar, piece => ∃ c, piece = [c]
  | .nameChar, piece => ∃ c, c ≠ '/' ∧ piece = [c]
  | .letter p, piece => ∃ c, sameLetter p c = true ∧ piece = [c]
  | .exact p, piece => piece = [p]

section Rests

variable {p : Char → Bool} {r s : List Char}

theorem mem_runs : r ∈ runs p s ↔ ∃ piece, (∀ c ∈ piece, p c = true) ∧ piece ++ r = s := by
  induction s with
  | nil => simp [runs, and_comm]
  | cons c cs ih =>
    rw [runs, List.mem_cons]
    constructor
    · rintro (rfl | later)
      · exact ⟨[], by simp, rfl⟩
      · split at later
        · next passes =>
          obtain ⟨piece, each, rfl⟩ := ih.1 later
          exact ⟨c :: piece, List.forall_mem_cons.2 ⟨passes, each⟩, rfl⟩
        · simp at later
    · rintro ⟨_ | ⟨d, piece⟩, each, eq⟩
      · exact Or.inl eq
      · obtain ⟨rfl, rfl⟩ := List.cons.inj eq
        obtain ⟨passes, each⟩ := List.forall_mem_cons.1 each
        rw [if_pos passes]
        exact Or.inr (ih.2 ⟨piece, each, rfl⟩)

theorem mem_single : r ∈ single p s ↔ ∃ piece, (∃ c, p c = true ∧ piece = [c]) ∧ piece ++ r = s := by
  constructor
  · intro left
    cases s with
    | nil => simp [single] at left
    | cons c cs =>
      rw [single] at left
      split at left
      · next passes =>
        rw [List.mem_singleton.1 left]
        exact ⟨[c], ⟨c, passes, rfl⟩, rfl⟩
      · simp at left
  · rintro ⟨_, ⟨c, passes, rfl⟩, rfl⟩
    simp [single, passes]

theorem mem_afterSlashes (plain : '\n' ∉ s) : r ∈ afterSlashes s ↔ ∃ before, before ++ '/' :: r = s := by
  induction s with
  | nil => simp [afterSlashes]
  | cons c cs ih =>
    obtain ⟨other, plain⟩ := List.ne_and_not_mem_of_not_mem_cons plain
    have same : r ∈ afterSlashes (c :: cs) ↔ (c = '/' ∧ r = cs) ∨ r ∈ afterSlashes cs := by
      have past : (c == '\n') = false := by simpa using other.symm
      by_cases slash : c = '/' <;> simp [afterSlashes, past, slash]
    rw [same, ih plain]
    constructor
    · rintro (⟨rfl, rfl⟩ | ⟨before, rfl⟩)
      · exact ⟨[], rfl⟩
      · exact ⟨c :: before, rfl⟩
    · rintro ⟨_ | ⟨d, before⟩, eq⟩
      · exact Or.inl ⟨(List.cons.inj eq).1.symm, (List.cons.inj eq).2⟩
      · exact Or.inr ⟨before, (List.cons.inj eq).2⟩

/-- What is left after a token is what follows a piece that the token takes. -/
theorem mem_rests {t : Token} (plain : '\n' ∉ s) : r ∈ rests t s ↔ ∃ piece, t.Takes piece ∧ piece ++ r = s := by
  -- Two of the tokens stop at line ends, which the text does not have.
  have free : ∀ piece, piece ++ r = s → ∀ c ∈ piece, c ≠ '\n' := by
    rintro piece rfl c mem
    exact ne_of_mem_of_not_mem (List.mem_append_left r mem) plain
  cases t with
  | anyText =>
    rw [rests, mem_runs]
    refine exists_congr fun piece => and_congr_left fun eq => ?_
    simpa [Token.Takes] using free piece eq
  | anyName =>
    rw [rests, mem_runs]
    refine exists_congr fun piece => and_congr_left fun _ => ?_
    simp only [Token.Takes, bne_iff_ne]
    exact List.forall_mem_ne'
  | directories =>
    rw [rests, List.mem_cons, mem_afterSlashes plain]
    constructor
    · rintro (rfl | ⟨before, rfl⟩)
      · exact ⟨[], Or.inl rfl, rfl⟩
      · exact ⟨before ++ ['/'], Or.inr (List.suffix_append before ['/']), by simp⟩
    · rintro ⟨piece, rfl | ⟨before, rfl⟩, rfl⟩
      · exact Or.inl rfl
      · exact Or.inr ⟨before, by simp⟩
  | anyChar =>
    rw [rests, mem_single]
    refine exists_congr fun piece => and_congr_left fun eq => exists_congr fun c => ?_
    refine ⟨And.right, fun same => ⟨?_, same⟩⟩
    simpa using free piece eq c (by simp [same])
  | nameChar =>
    rw [rests, mem_single]
    simp only [Token.Takes, bne_iff_ne]
  | letter p => rw [rests, mem_single]; rfl
  | exact p =>
    rw [rests, mem_single]
    simp only [Token.Takes, beq_iff_eq, exists_eq_left]

end Rests

theorem accepts_iff {ts : List Token} {s : List Char} (plain : '\n' ∉ s) :
    accepts ts s = true ↔ Composed Token.Takes ts s := by
  induction ts generalizing s with
  | nil =>
    have other : s ≠ ['\n'] := fun eq => plain (by simp [eq])
    rw [accepts, composed_nil]
    simp [other]
  | cons t ts ih =>
    rw [accepts, composed_cons, List.any_eq_true]
    constructor
    · rintro ⟨rest, left, accepted⟩
      obtain ⟨piece, takes, rfl⟩ := (mem_rests plain).1 left
      exact ⟨piece, rest, takes, (ih fun mem => plain (List.mem_append_right piece mem)).1 accepted, rfl⟩
    · rintro ⟨piece, rest, takes, composed, rfl⟩
      exact ⟨rest, (mem_rests plain).2 ⟨piece, takes, rfl⟩, (ih fun mem => plain (List.mem_append_right piece mem)).2 composed⟩

section Names

/-- What a character of a pattern for names stands for: a star for any text, a question mark for any one character, and
another character for the same letter in any shape. -/
def NamePart (p : Char) (piece : List Char) : Prop :=
  if p = '*' then True
  else if p = '?' then ∃ c, piece = [c]
  else ∃ c, Relation.EqvGen OtherShape p c ∧ piece = [c]

theorem composed_symbolTokens {pattern : String} {s : List Char} :
    Composed Token.Takes (symbolTokens pattern) s ↔ Composed NamePart pattern.toList s := by
  refine composed_congr (List.forall₂_map_left_iff.2 (List.forall₂_same.2 fun p _ piece => ?_))
  by_cases star : p = '*'
  · simp [NamePart, star, Token.Takes]
  · by_cases mark : p = '?'
    · simp [NamePart, mark, Token.Takes]
    · simp [NamePart, star, mark, Token.Takes, sameLetter_iff_eqvGen]

/-- **A name matches if it is made of pieces that the characters of a pattern stand for.** -/
theorem matchesSymbol_iff_composed {name : String} (plain : '\n' ∉ name.toList) (patterns : List String) :
    matchesSymbol name patterns = true ↔ ∃ pattern ∈ patterns, Composed NamePart pattern.toList name.toList := by
  rw [matchesSymbol, List.any_eq_true]
  refine exists_congr fun pattern => and_congr_right fun _ => ?_
  rw [accepts_iff plain, composed_symbolTokens]

/-- The sign of the unit kelvin is a shape of the letter, and a point is only a point. -/
theorem matchesSymbol_iff_composed_kernel :
    '\n' ∉ "App\\Kernel".toList ∧
      (∃ pattern ∈ ["Lib\\*", "a??\\*\u212aERNE?"], Composed NamePart pattern.toList "App\\Kernel".toList) ∧
      ¬∃ pattern ∈ ["App.Kernel", "App*Kern"], Composed NamePart pattern.toList "App\\Kernel".toList := by
  have plain : '\n' ∉ "App\\Kernel".toList := by decide
  refine ⟨plain, (matchesSymbol_iff_composed plain _).1 (by decide +kernel), fun composed => ?_⟩
  have matched := (matchesSymbol_iff_composed plain _).2 composed
  revert matched
  decide +kernel

end Names

section Paths

/-- The signs of a pattern for paths. -/
def pathSigns : List (List Char) := [['*', '*', '/'], ['*', '*'], ['*'], ['?']]

/-- The tokens of a pattern from left to right: signs and single characters, at each place the longest sign that
stands there. -/
def AreTokens : List (List Char) → Prop
  | [] => True
  | token :: rest =>
    (token ∈ pathSigns ∨ token.length = 1) ∧
      (∀ sign ∈ pathSigns, sign <+: token ++ rest.flatten → sign.length ≤ token.length) ∧ AreTokens rest

/-- What a token of a pattern for paths stands for. -/
def PathPart (token piece : List Char) : Prop :=
  if token = ['*', '*', '/'] then piece = [] ∨ ['/'] <:+ piece
  else if token = ['*', '*'] then True
  else if token = ['*'] then '/' ∉ piece
  else if token = ['?'] then ∃ c, c ≠ '/' ∧ piece = [c]
  else piece = token

section Tokens

variable {token token' rest rest' : List Char}

theorem length_pos_of_token (whole : token ∈ pathSigns ∨ token.length = 1) : 0 < token.length := by
  rcases whole with sign | single
  · revert token
    decide
  · omega

theorem length_le_of_token (whole : token ∈ pathSigns ∨ token.length = 1) (whole' : token' ∈ pathSigns ∨ token'.length = 1)
    (longest' : ∀ sign ∈ pathSigns, sign <+: token' ++ rest' → sign.length ≤ token'.length)
    (same : token ++ rest = token' ++ rest') : token.length ≤ token'.length := by
  rcases whole with sign | single
  · exact longest' token sign (same ▸ List.prefix_append token rest)
  · have pos := length_pos_of_token whole'
    omega

end Tokens

theorem AreTokens.eq_nil {ts : List (List Char)} (h : AreTokens ts) (empty : ts.flatten = []) : ts = [] := by
  cases ts with
  | nil => rfl
  | cons token rest =>
    have pos := length_pos_of_token h.1
    rw [List.flatten_cons, List.append_eq_nil_iff] at empty
    simp [empty.1] at pos

/-- A pattern has only one list of tokens. -/
theorem AreTokens.unique {ts ts' : List (List Char)} (h : AreTokens ts) (h' : AreTokens ts') (same : ts.flatten = ts'.flatten) :
    ts = ts' := by
  induction ts generalizing ts' with
  | nil => exact (h'.eq_nil same.symm).symm
  | cons token rest ih =>
    cases ts' with
    | nil => exact h.eq_nil same
    | cons token' rest' =>
      obtain ⟨whole, longest, more⟩ := h
      obtain ⟨whole', longest', more'⟩ := h'
      have le := length_le_of_token whole whole' longest' same
      have ge := length_le_of_token whole' whole longest same.symm
      obtain ⟨rfl, later⟩ := List.append_inj same (le_antisymm le ge)
      rw [ih more more' later]

theorem exists_tokens (cs : List Char) :
    ∃ tokens, tokens.flatten = cs ∧ AreTokens tokens ∧
      List.Forall₂ (fun token (t : Token) => ∀ piece, PathPart token piece ↔ t.Takes piece) tokens (pathTokensOf cs) := by
  fun_induction pathTokensOf cs with
  | case1 cs ih =>
    obtain ⟨tokens, rfl, are, each⟩ := ih
    refine ⟨['*', '*', '/'] :: tokens, rfl, ⟨Or.inl (by simp [pathSigns]), ?_, are⟩, .cons ?_ each⟩
    · simp [pathSigns]
    · simp [PathPart, Token.Takes]
  | case2 cs other ih =>
    obtain ⟨tokens, rfl, are, each⟩ := ih
    refine ⟨['*', '*'] :: tokens, rfl, ⟨Or.inl (by simp [pathSigns]), ?_, are⟩, .cons ?_ each⟩
    · have followed : ¬['/'] <+: tokens.flatten := fun ⟨more, eq⟩ => other more eq.symm
      simp [pathSigns, followed]
    · simp [PathPart, Token.Takes]
  | case3 cs _ other ih =>
    obtain ⟨tokens, rfl, are, each⟩ := ih
    refine ⟨['*'] :: tokens, rfl, ⟨Or.inl (by simp [pathSigns]), ?_, are⟩, .cons ?_ each⟩
    · have followed : ∀ more, ¬ '*' :: more <+: tokens.flatten := fun more ⟨rest, eq⟩ => other (more ++ rest) eq.symm
      simp [pathSigns, followed]
    · simp [PathPart, Token.Takes]
  | case4 cs ih =>
    obtain ⟨tokens, rfl, are, each⟩ := ih
    refine ⟨['?'] :: tokens, rfl, ⟨Or.inl (by simp [pathSigns]), ?_, are⟩, .cons ?_ each⟩
    · simp [pathSigns]
    · simp [PathPart, Token.Takes]
  | case5 c cs _ _ star mark ih =>
    obtain ⟨tokens, rfl, are, each⟩ := ih
    refine ⟨[c] :: tokens, rfl, ⟨Or.inr rfl, ?_, are⟩, .cons ?_ each⟩
    · have other : '*' ≠ c := fun eq => star eq.symm
      simp [pathSigns, other]
    · simp [PathPart, Token.Takes, show c ≠ '*' from star, show c ≠ '?' from mark]
  | case6 => exact ⟨[], rfl, trivial, .nil⟩

/-- The pattern with slashes for backslashes and without a mark of the directory at hand at its start. -/
def normalPattern (pattern : String) : List Char :=
  if ['.', '/'] <+: withSlashes pattern then (withSlashes pattern).drop 2 else withSlashes pattern

theorem pathTokens_eq (pattern : String) : pathTokens pattern = pathTokensOf (normalPattern pattern) := by
  rw [pathTokens, normalPattern]
  split
  · next cs eq => simp [eq]
  · next other =>
    rw [if_neg]
    rintro ⟨cs, eq⟩
    exact other cs eq.symm

theorem matchesPath_iff {path : String} (plain : '\n' ∉ path.toList) (pattern : String) :
    matchesPath path [pattern] = true ↔
      ∃ tokens, tokens.flatten = normalPattern pattern ∧ AreTokens tokens ∧ Composed PathPart tokens (withSlashes path) := by
  have plain' : '\n' ∉ withSlashes path := by
    simp only [withSlashes, List.mem_map, not_exists, not_and]
    intro c mem
    split
    · decide
    · exact ne_of_mem_of_not_mem mem plain
  obtain ⟨tokens, whole, are, each⟩ := exists_tokens (normalPattern pattern)
  simp only [matchesPath, List.any_cons, List.any_nil, Bool.or_false, pathTokens_eq]
  rw [accepts_iff plain', ← composed_congr each]
  constructor
  · intro composed
    exact ⟨tokens, whole, are, composed⟩
  · rintro ⟨tokens', whole', are', composed⟩
    rwa [are.unique are' (whole.trans whole'.symm)]

theorem count_slash_of_pathPart {token piece : List Char} (one : ¬['*', '*'] <+: token) (part : PathPart token piece) :
    piece.count '/' = token.count '/' := by
  unfold PathPart at part
  split at part
  · next h => simp [h] at one
  · split at part
    · next h => simp [h] at one
    · split at part
      · next h => simp [h, List.count_eq_zero.2 part]
      · split at part
        · next h =>
          obtain ⟨c, other, rfl⟩ := part
          simp [h, other]
        · rw [part]

theorem count_slash_of_composed {tokens : List (List Char)} {s : List Char} (one : ¬['*', '*'] <:+: tokens.flatten)
    (composed : Composed PathPart tokens s) : s.count '/' = tokens.flatten.count '/' := by
  obtain ⟨pieces, each, rfl⟩ := composed
  have same : ∀ token ∈ tokens, ¬['*', '*'] <+: token := fun token mem starts =>
    one (starts.isInfix.trans (List.infix_of_mem_flatten mem))
  clear one
  induction each with
  | nil => rfl
  | cons part _ ih =>
    obtain ⟨first, others⟩ := List.forall_mem_cons.1 same
    rw [List.flatten_cons, List.flatten_cons, List.count_append, List.count_append, count_slash_of_pathPart first part,
      ih others]

/-- **A path matches if it is made of pieces that the tokens of the pattern stand for.** -/
theorem matchesPath_iff_composed {path : String} (plain : '\n' ∉ path.toList) (pattern : String) :
    (matchesPath path [pattern] = true ↔
      ∃ tokens, tokens.flatten = normalPattern pattern ∧ AreTokens tokens ∧ Composed PathPart tokens (withSlashes path)) ∧
    (¬['*', '*'] <:+: normalPattern pattern → matchesPath path [pattern] = true →
      (withSlashes path).count '/' = (normalPattern pattern).count '/') := by
  refine ⟨matchesPath_iff plain pattern, fun one matched => ?_⟩
  obtain ⟨tokens, whole, -, composed⟩ := (matchesPath_iff plain pattern).1 matched
  rw [← whole] at one ⊢
  exact count_slash_of_composed one composed

theorem matchesPath_iff_composed_store :
    '\n' ∉ "src\\Cache\\Store.php".toList ∧
      (∃ tokens, tokens.flatten = "**/C*/?tore.php".toList ∧ AreTokens tokens ∧
        Composed PathPart tokens "src/Cache/Store.php".toList) ∧
      ¬['*', '*'] <:+: "src/*/Store.ph?".toList ∧ matchesPath "src\\Cache\\Store.php" [".\\src/*/Store.ph?"] = true ∧
      "src/Cache/Store.php".toList.count '/' = "src/*/Store.ph?".toList.count '/' := by
  have plain : '\n' ∉ "src\\Cache\\Store.php".toList := by decide
  have one : ¬['*', '*'] <:+: "src/*/Store.ph?".toList := by decide +kernel
  have matched : matchesPath "src\\Cache\\Store.php" [".\\src/*/Store.ph?"] = true := by decide +kernel
  exact ⟨plain, (matchesPath_iff_composed plain ".\\**/C*/?tore.php").1.1 (by decide +kernel), one, matched,
    (matchesPath_iff_composed plain ".\\src/*/Store.ph?").2 one matched⟩

end Paths

end DeadCode.Glob
