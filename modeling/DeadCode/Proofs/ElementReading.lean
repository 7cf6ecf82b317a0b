import DeadCode.Markup.Xml
import DeadCode.Proofs.PageReading

/-!
# Reading elements back

A document is read tag by tag. An element that is not closed yet waits on a stack for the elements inside of it, and the text
after its first tag counts if there are none. `Reads` says that a text is read as some elements, whatever follows it. That holds
for every written element with proper names (`reads_renderAt`), so a document comes back as the element that it was made of
(`read?_document`).
-/

namespace DeadCode.Markup
set_option autoImplicit false

section References

/-- The number that decimal digits stand for. -/
def numeral? (cs : List Char) : Option Nat :=
  if !cs.isEmpty && cs.all Char.isDigit then some (Nat.ofDigitChars 10 cs 0) else none

theorem numeral?_toString (n : Nat) : numeral? (toString n).toList = some n := by
  have digits : (Nat.toDigits 10 n).all Char.isDigit = true :=
    List.all_eq_true.2 fun _ mem => Nat.isDigit_of_mem_toDigits (by decide) (by decide) mem
  have text : (toString n).toList = Nat.toDigits 10 n := Nat.toList_repr
  rw [text, numeral?, digits, Nat.ofDigitChars_ten_toDigits]
  simp [Nat.toDigits_ne_nil]

/-- The character that a reference stands for: there are five names, and numbers in decimal digits. -/
def referred? : List Char → Option Char
  | ['a', 'm', 'p'] => some '&'
  | ['l', 't'] => some '<'
  | ['g', 't'] => some '>'
  | ['q', 'u', 'o', 't'] => some '"'
  | ['a', 'p', 'o', 's'] => some '\''
  | '#' :: ds => (numeral? ds).map Char.ofNat
  | _ => none

/-- The characters of a text with those that it refers to. The name of a reference is collected up to its semicolon. -/
def decodeFrom : Option (List Char) → List Char → Option (List Char)
  | none, [] => some []
  | some _, [] => none
  | none, c :: cs => if c = '&' then decodeFrom (some []) cs else (decodeFrom none cs).map (c :: ·)
  | some name, c :: cs =>
    if c = ';' then (referred? name).bind fun d => (decodeFrom none cs).map (d :: ·) else decodeFrom (some (name ++ [c])) cs

/-- A text with the characters that it refers to. -/
def decode? (cs : List Char) : Option String := (decodeFrom none cs).map String.ofList

theorem decodeFrom_textChar (c : Char) (rest : List Char) :
    decodeFrom none (textChar c ++ rest) = (decodeFrom none rest).map (c :: ·) := by
  by_cases ampersand : c = '&'
  · subst ampersand
    rfl
  by_cases less : c = '<'
  · subst less
    rfl
  by_cases greater : c = '>'
  · subst greater
    rfl
  · simp [textChar, ampersand, less, greater, decodeFrom]

theorem decodeFrom_attributeChar (c : Char) (rest : List Char) :
    decodeFrom none (attributeChar c ++ rest) = (decodeFrom none rest).map (c :: ·) := by
  by_cases quote : c = '"'
  · subst quote
    rfl
  by_cases back : c = '\r'
  · subst back
    rfl
  by_cases feed : c = '\n'
  · subst feed
    rfl
  by_cases tab : c = '\t'
  · subst tab
    rfl
  · simpa [attributeChar, quote, back, feed, tab] using decodeFrom_textChar c rest

/-- An escaped text stands for the text, if each of its characters does. -/
theorem decode?_escape {char : Char → List Char}
    (each : ∀ c rest, decodeFrom none (char c ++ rest) = (decodeFrom none rest).map (c :: ·)) (s : String) :
    decode? (escape char s).toList = some s := by
  have chars (cs : List Char) : decodeFrom none (cs.flatMap char) = some cs := by
    induction cs with
    | nil => rfl
    | cons c cs ih => rw [List.flatMap_cons, each, ih, Option.map_some]
  rw [decode?, escape, String.toList_ofList, chars, Option.map_some, String.ofList_toList]

theorem decode?_of_not_mem {cs : List Char} (free : '&' ∉ cs) : decode? cs = some (String.ofList cs) := by
  have chars : decodeFrom none cs = some cs := by
    induction cs with
    | nil => rfl
    | cons c cs ih =>
      rw [List.mem_cons, not_or] at free
      rw [decodeFrom, if_neg (Ne.symm free.1), ih free.2, Option.map_some]
  rw [decode?, chars, Option.map_some]

end References

section Tags

mutual

/-- The attributes of a tag, from the blank before the first one on, and whether the tag closes itself. -/
def readAttributes : List Char → Option (List (String × String) × Bool)
  | [] => some ([], false)
  | c :: cs => if c = ' ' then readKey [] cs else none

/-- The same from the key of the first one on, of which some characters have been read. A slash at the end is no key. -/
def readKey (key : List Char) : List Char → Option (List (String × String) × Bool)
  | [] => if key = ['/'] then some ([], true) else none
  | c :: cs => if c = '=' then readQuote key cs else readKey (key ++ [c]) cs

/-- The same from the quote before the first value on. -/
def readQuote (key : List Char) : List Char → Option (List (String × String) × Bool)
  | [] => none
  | c :: cs => if c = '"' then readValue key [] cs else none

/-- The same from inside of the first value on. -/
def readValue (key value : List Char) : List Char → Option (List (String × String) × Bool)
  | [] => none
  | c :: cs =>
    if c = '"' then (decode? value).bind fun v => (readAttributes cs).map fun r => ((String.ofList key, v) :: r.1, r.2)
    else readValue key (value ++ [c]) cs

end

/-- The name of a tag, its attributes, and whether it closes itself. -/
def tagParts? (cs : List Char) : Option (String × List (String × String) × Bool) :=
  (readAttributes (cs.dropWhile (· != ' '))).map fun r => (String.ofList (cs.takeWhile (· != ' ')), r.1, r.2)

/-- A character of a name. -/
def isNameChar (c : Char) : Bool := c.isAlpha || c == '-'

/-- Can the text be the name of an element or of an attribute? -/
def isName (s : String) : Bool := !s.toList.isEmpty && s.toList.all isNameChar

theorem not_mem_of_isName {s : String} {c : Char} (name : isName s = true) (special : isNameChar c = false) :
    c ∉ s.toList := by
  intro mem
  have all := List.all_eq_true.1 (Bool.and_eq_true_iff.1 name).2 c mem
  rw [special] at all
  cases all

theorem readKey_append {key : List Char} (free : '=' ∉ key) (before rest : List Char) :
    readKey before (key ++ '=' :: rest) = readQuote (before ++ key) rest := by
  induction key generalizing before with
  | nil => rw [List.nil_append, readKey, if_pos rfl, List.append_nil]
  | cons c key ih =>
    rw [List.mem_cons, not_or] at free
    rw [List.cons_append, readKey, if_neg (Ne.symm free.1), ih free.2, List.append_assoc, List.singleton_append]

theorem readValue_append {value : List Char} (free : '"' ∉ value) (key before rest : List Char) :
    readValue key before (value ++ '"' :: rest) = (decode? (before ++ value)).bind fun v =>
      (readAttributes rest).map fun r => ((String.ofList key, v) :: r.1, r.2) := by
  induction value generalizing before with
  | nil => rw [List.nil_append, readValue, if_pos rfl, List.append_nil]
  | cons c value ih =>
    rw [List.mem_cons, not_or] at free
    rw [List.cons_append, readValue, if_neg (Ne.symm free.1), ih free.2, List.append_assoc, List.singleton_append]

theorem not_mem_escape {char : Char → List Char} {e : Char} (each : ∀ c, e ∉ char c) (s : String) :
    e ∉ (escape char s).toList := by
  rw [escape, String.toList_ofList]
  intro mem
  obtain ⟨c, -, inside⟩ := List.mem_flatMap.1 mem
  exact each c inside

/-- A written character holds no bracket, and no quote unless it is one. -/
theorem not_mem_textChar {e c : Char} (special : e = '>' ∨ e = '<' ∨ e = '"' ∧ c ≠ '"') : e ∉ textChar c := by
  unfold textChar
  repeat' split
  · rcases special with rfl | rfl | ⟨rfl, -⟩ <;> decide
  · rcases special with rfl | rfl | ⟨rfl, -⟩ <;> decide
  · rcases special with rfl | rfl | ⟨rfl, -⟩ <;> decide
  · rcases special with rfl | rfl | ⟨rfl, other⟩ <;> grind

/-- A character of a value holds no bracket and no quote. -/
theorem not_mem_attributeChar {e : Char} (special : e = '>' ∨ e = '<' ∨ e = '"') (c : Char) : e ∉ attributeChar c := by
  unfold attributeChar
  split
  · rcases special with rfl | rfl | rfl <;> decide
  next quote =>
  repeat' split
  · rcases special with rfl | rfl | rfl <;> decide
  · rcases special with rfl | rfl | rfl <;> decide
  · rcases special with rfl | rfl | rfl <;> decide
  · exact not_mem_textChar (special.imp_right (Or.imp_right fun same => ⟨same, by simpa using quote⟩))

/-- An attribute as it is written. -/
def attributeChars (a : String × String) : List Char :=
  ' ' :: (a.1.toList ++ '=' :: '"' :: ((escape attributeChar a.2).toList ++ ['"']))

theorem toList_attributeText (as : List (String × String)) : (attributeText as).toList = as.flatMap attributeChars := by
  have blank : " ".toList = [' '] := rfl
  have equals : "=\"".toList = ['=', '"'] := rfl
  have quote : "\"".toList = ['"'] := rfl
  rw [attributeText, String.toList_join, List.flatMap_map]
  congr 1
  funext a
  simp only [String.toList_append, blank, equals, quote, List.append_assoc, List.cons_append, List.nil_append, attributeChars]

/-- Written attributes are read, whatever follows them. -/
theorem readAttributes_append {as : List (String × String)} (names : ∀ a ∈ as, isName a.1 = true) (rest : List Char) :
    readAttributes ((attributeText as).toList ++ rest) = (readAttributes rest).map fun r => (as ++ r.1, r.2) := by
  rw [toList_attributeText]
  induction as with
  | nil => simp
  | cons a as ih =>
    obtain ⟨name, others⟩ := List.forall_mem_cons.1 names
    have key : '=' ∉ a.1.toList := not_mem_of_isName name (by decide)
    have value : '"' ∉ (escape attributeChar a.2).toList := not_mem_escape (not_mem_attributeChar (Or.inr (Or.inr rfl))) a.2
    simp only [List.flatMap_cons, attributeChars, List.append_assoc, List.cons_append, List.nil_append]
    rw [readAttributes, if_pos rfl, readKey_append key, readQuote, if_pos rfl, readValue_append value, List.nil_append,
      List.nil_append, decode?_escape decodeFrom_attributeChar, Option.bind_some, ih others, Option.map_map,
      String.ofList_toList]
    rfl

theorem readAttributes_nil : readAttributes [] = some ([], false) := by rw [readAttributes]

theorem readAttributes_slash : readAttributes " /".toList = some ([], true) := by
  show readAttributes [' ', '/'] = _
  rw [readAttributes, if_pos rfl, readKey, if_neg (by decide), readKey, List.nil_append, if_pos rfl]

/-- Attributes start with a blank, if there are any. -/
theorem blank_of_readAttributes {cs : List Char} {r : List (String × String) × Bool} (read : readAttributes cs = some r) :
    cs.dropWhile (· != ' ') = cs ∧ cs.takeWhile (· != ' ') = [] := by
  cases cs with
  | nil => exact ⟨rfl, rfl⟩
  | cons c cs =>
    rw [readAttributes] at read
    split at read
    · next blank => simp [blank]
    · cases read

/-- A tag is read with its name and its attributes. -/
theorem tagParts?_append {tag : String} {as : List (String × String)} {rest : List Char} {closed : Bool}
    (name : isName tag = true) (names : ∀ a ∈ as, isName a.1 = true) (read : readAttributes rest = some ([], closed)) :
    tagParts? (tag.toList ++ ((attributeText as).toList ++ rest)) = some (tag, as, closed) := by
  have whole : readAttributes ((attributeText as).toList ++ rest) = some (as, closed) := by
    rw [readAttributes_append names, read, Option.map_some, List.append_nil]
  have others : ∀ c ∈ tag.toList, (c != ' ') = true := fun c mem =>
    bne_iff_ne.2 fun blank => not_mem_of_isName name (by decide) (blank ▸ mem)
  obtain ⟨dropped, taken⟩ := blank_of_readAttributes whole
  rw [tagParts?, List.dropWhile_append_of_pos others, List.takeWhile_append_of_pos others, dropped, taken, whole,
    Option.map_some, List.append_nil, String.ofList_toList]

end Tags

section Stack

/-- An element whose end has not come yet. -/
structure Open where
  tag : String
  attributes : List (String × String)
  text : String
  children : List Element

namespace Open

/-- The element with more elements inside of it. -/
def add (o : Open) (es : List Element) : Open := { o with children := o.children ++ es }

/-- The element at its end. A text before other elements does not count. -/
def element (o : Open) : Element := .node o.tag o.attributes (if o.children.isEmpty then o.text else "") o.children

@[simp] theorem add_nil (o : Open) : o.add [] = o := by simp [add]

@[simp] theorem add_add (o : Open) (es es' : List Element) : (o.add es).add es' = o.add (es ++ es') := by simp [add]

end Open

/-- The innermost element ends. -/
def endTag (name : List Char) (o : Open) : List Open → Option (List Open)
  | [] => none
  | outer :: below => if o.tag.toList = name then some (outer.add [o.element] :: below) else none

/-- One tag with the text after it. -/
def takeTag (t : Page.Element) : List Open → Option (List Open)
  | [] => none
  | o :: below =>
    match t.tag.toList with
    | '?' :: _ => some (o :: below)
    | '/' :: name => endTag name o below
    | tag => (tagParts? tag).bind fun parts =>
      if parts.2.2 then some (o.add [.node parts.1 parts.2.1 "" []] :: below)
      else (decode? t.text.toList).map fun text => ⟨parts.1, parts.2.1, text, []⟩ :: o :: below

/-- One tag after the other. -/
def takeTags : List Page.Element → List Open → Option (List Open)
  | [], stack => some stack
  | t :: ts, stack => (takeTag t stack).bind (takeTags ts)

/-- The element that a document holds. Line ends in texts are kept as they stand. -/
def read? (s : String) : Option Element :=
  match takeTags (Page.elements s) [⟨"", [], "", []⟩] with
  | some [⟨_, _, _, [e]⟩] => some e
  | _ => none

variable {tag : String} {as : List (String × String)} {o : Open} {below : List Open}

/-- A tag that starts with a name opens an element or stands for one. -/
theorem takeTag_of_isName {t : Page.Element} {rest : List Char} {closed : Bool} (name : isName tag = true)
    (names : ∀ a ∈ as, isName a.1 = true) (read : readAttributes rest = some ([], closed))
    (chars : t.tag.toList = tag.toList ++ ((attributeText as).toList ++ rest)) :
    takeTag t (o :: below) = if closed then some (o.add [.node tag as "" []] :: below)
      else (decode? t.text.toList).map fun text => ⟨tag, as, text, []⟩ :: o :: below := by
  have first {c : Char} {cs : List Char} (eq : t.tag.toList = c :: cs) : c ∈ tag.toList := by
    rw [chars] at eq
    cases letters : tag.toList with
    | nil =>
      rw [isName, letters] at name
      cases name
    | cons d ds =>
      rw [letters, List.cons_append] at eq
      rw [(List.cons.inj eq).1]
      exact List.mem_cons_self
  have parts := tagParts?_append name names read
  rw [← chars] at parts
  rw [takeTag]
  split
  · next eq => exact absurd (first eq) (not_mem_of_isName name (by decide))
  · next eq => exact absurd (first eq) (not_mem_of_isName name (by decide))
  · rw [parts]
    rfl

theorem takeTag_open (name : isName tag = true) (names : ∀ a ∈ as, isName a.1 = true) (text : String) :
    takeTag ⟨tag ++ attributeText as, text⟩ (o :: below) =
      (decode? text.toList).map fun text => ⟨tag, as, text, []⟩ :: o :: below :=
  takeTag_of_isName name names readAttributes_nil (by simp)

theorem takeTag_closed (name : isName tag = true) (names : ∀ a ∈ as, isName a.1 = true) (text : String) :
    takeTag ⟨tag ++ attributeText as ++ " /", text⟩ (o :: below) = some (o.add [.node tag as "" []] :: below) :=
  takeTag_of_isName name names readAttributes_slash (by simp)

theorem takeTag_end {o' : Open} (named : o'.tag = tag) (text : String) :
    takeTag ⟨"/" ++ tag, text⟩ (o' :: o :: below) = some (o.add [o'.element] :: below) := by
  have chars : ("/" ++ tag).toList = '/' :: tag.toList := String.toList_append
  rw [takeTag]
  simp only [chars]
  rw [endTag, if_pos (congrArg String.toList named)]

end Stack

section Reading

/-- A rest of a document: a text, and the tags with the text after each. -/
structure Rest where
  lead : List Char
  tags : List Page.Element

namespace Rest

/-- The rest as it is written. -/
def text (r : Rest) : List Char := r.lead ++ r.tags.flatMap Page.Element.written

/-- Before the first tag there are only blanks, and the brackets of the tags are the only ones. -/
structure Plain (r : Rest) : Prop where
  lead : ∀ c ∈ r.lead, c = ' ' ∨ c = '\n'
  tags : ∀ t ∈ r.tags, t.Plain

theorem Plain.not_mem {r : Rest} (plain : r.Plain) {e : Char} (other : e ≠ ' ' ∧ e ≠ '\n') : e ∉ r.lead :=
  fun mem => (plain.lead e mem).elim other.1 other.2

end Rest

/-- A text is read as some elements: whatever follows it, with the text in front it goes tag by tag as well, and taking the
tags puts these elements into the innermost one before it goes on. -/
def Reads (x : List Char) (es : List Element) : Prop :=
  ∀ r : Rest, r.Plain → ∃ r' : Rest, r'.Plain ∧ r'.text = x ++ r.text ∧
    ∀ o below, takeTags r'.tags (o :: below) = takeTags r.tags (o.add es :: below)

namespace Reads

variable {x y : List Char} {es es' : List Element}

theorem blank (blank : ∀ c ∈ x, c = ' ' ∨ c = '\n') : Reads x [] := by
  intro r plain
  refine ⟨⟨x ++ r.lead, r.tags⟩, ⟨?_, plain.tags⟩, List.append_assoc _ _ _, fun o below => by rw [Open.add_nil]⟩
  intro c mem
  exact (List.mem_append.1 mem).elim (blank c) (plain.lead c)

theorem append (first : Reads x es) (second : Reads y es') : Reads (x ++ y) (es ++ es') := by
  intro r plain
  obtain ⟨r', plain', text', taken'⟩ := second r plain
  obtain ⟨r'', plain'', text'', taken''⟩ := first r' plain'
  refine ⟨r'', plain'', ?_, fun o below => ?_⟩
  · rw [text'', text', List.append_assoc]
  · rw [taken'', taken', Open.add_add]

end Reads

/-- An element with names that can be read. Either there are elements inside of it or a text. -/
inductive Element.Proper : Element → Prop
  | node {tag : String} {as : List (String × String)} {text : String} {es : List Element} (name : isName tag = true)
      (names : ∀ a ∈ as, isName a.1 = true) (single : es ≠ [] → text = "") (inside : ∀ e ∈ es, Proper e) :
      Proper (.node tag as text es)

section Elements

variable {tag : String} {as : List (String × String)}

/-- The brackets of tags as characters. -/
theorem toList_brackets : "<".toList = ['<'] ∧ ">".toList = ['>'] ∧ "</".toList = ['<', '/'] ∧ "/".toList = ['/'] ∧
    " />".toList = [' ', '/', '>'] ∧ " /".toList = [' ', '/'] := by decide

/-- The characters of a tag hold no closing bracket. -/
theorem greater_not_mem_tag (name : isName tag = true) (names : ∀ a ∈ as, isName a.1 = true) :
    '>' ∉ (tag ++ attributeText as).toList := by
  rw [String.toList_append, toList_attributeText, List.mem_append, not_or]
  refine ⟨not_mem_of_isName name (by decide), fun mem => ?_⟩
  obtain ⟨a, given, inside⟩ := List.mem_flatMap.1 mem
  have key : '>' ∉ a.1.toList := not_mem_of_isName (names a given) (by decide)
  have value : '>' ∉ (escape attributeChar a.2).toList := not_mem_escape (not_mem_attributeChar (Or.inl rfl)) a.2
  simp [attributeChars, key, value] at inside

/-- A closing tag. -/
theorem plain_endTag (name : isName tag = true) {text : List Char} (free : '<' ∉ text) :
    Page.Element.Plain ⟨"/" ++ tag, String.ofList text⟩ where
  tag := by
    rw [String.toList_append, List.mem_append, not_or]
    exact ⟨by decide, not_mem_of_isName name (by decide)⟩
  text := by rwa [String.toList_ofList]

/-- An element that is written as one tag. -/
theorem reads_empty (name : isName tag = true) (names : ∀ a ∈ as, isName a.1 = true) :
    Reads ("<" ++ tag ++ attributeText as ++ " />").toList [.node tag as "" []] := by
  obtain ⟨less, -, -, -, last, slash⟩ := toList_brackets
  intro r plain
  refine ⟨⟨[], ⟨tag ++ attributeText as ++ " /", String.ofList r.lead⟩ :: r.tags⟩, ⟨by simp, ?_⟩, ?_, fun o below => ?_⟩
  · refine List.forall_mem_cons.2 ⟨⟨?_, ?_⟩, plain.tags⟩
    · rw [String.toList_append, List.mem_append, not_or]
      exact ⟨greater_not_mem_tag name names, by decide⟩
    · rw [String.toList_ofList]
      exact plain.not_mem (by decide)
  · simp only [Rest.text, List.flatMap_cons, Page.Element.written, String.toList_append, String.toList_ofList, less, last,
      slash, List.append_assoc, List.cons_append, List.nil_append]
  · rw [takeTags, takeTag_closed name names]
    rfl

/-- An element around a text. -/
theorem reads_leaf (name : isName tag = true) (names : ∀ a ∈ as, isName a.1 = true) (text : String) :
    Reads ("<" ++ tag ++ attributeText as ++ ">" ++ escape textChar text ++ "</" ++ tag ++ ">").toList
      [.node tag as text []] := by
  obtain ⟨less, greater, closing, slash, -, -⟩ := toList_brackets
  intro r plain
  refine ⟨⟨[], ⟨tag ++ attributeText as, escape textChar text⟩ :: ⟨"/" ++ tag, String.ofList r.lead⟩ :: r.tags⟩,
    ⟨by simp, ?_⟩, ?_, fun o below => ?_⟩
  · refine List.forall_mem_cons.2 ⟨⟨greater_not_mem_tag name names, ?_⟩,
      List.forall_mem_cons.2 ⟨plain_endTag name (plain.not_mem (by decide)), plain.tags⟩⟩
    exact not_mem_escape (fun c => not_mem_textChar (Or.inr (Or.inl rfl))) text
  · simp only [Rest.text, List.flatMap_cons, Page.Element.written, String.toList_append, String.toList_ofList, less, greater,
      closing, slash, List.append_assoc, List.cons_append, List.nil_append]
  · have named : (⟨tag, as, text, []⟩ : Open).tag = tag := rfl
    rw [takeTags, takeTag_open name names, decode?_escape decodeFrom_textChar, Option.map_some, Option.bind_some, takeTags,
      takeTag_end named]
    rfl

/-- An element around others. -/
theorem reads_around (name : isName tag = true) (names : ∀ a ∈ as, isName a.1 = true) {inner : String} {es : List Element}
    (filled : es ≠ []) (inside : Reads inner.toList es) :
    Reads ("<" ++ tag ++ attributeText as ++ ">" ++ inner ++ "</" ++ tag ++ ">").toList [.node tag as "" es] := by
  obtain ⟨less, greater, closing, slash, -, -⟩ := toList_brackets
  intro r plain
  obtain ⟨r', plain', text', taken'⟩ := inside ⟨[], ⟨"/" ++ tag, String.ofList r.lead⟩ :: r.tags⟩
    ⟨by simp, List.forall_mem_cons.2 ⟨plain_endTag name (plain.not_mem (by decide)), plain.tags⟩⟩
  refine ⟨⟨[], ⟨tag ++ attributeText as, String.ofList r'.lead⟩ :: r'.tags⟩, ⟨by simp, ?_⟩, ?_, fun o below => ?_⟩
  · refine List.forall_mem_cons.2 ⟨⟨greater_not_mem_tag name names, ?_⟩, plain'.tags⟩
    rw [String.toList_ofList]
    exact plain'.not_mem (by decide)
  · simp only [Rest.text, List.flatMap_cons, Page.Element.written, String.toList_append, String.toList_ofList, less, greater,
      closing, slash, List.append_assoc, List.cons_append, List.nil_append] at text' ⊢
    rw [text']
  · have named : (Open.add ⟨tag, as, String.ofList r'.lead, []⟩ es).tag = tag := rfl
    have whole : (Open.add ⟨tag, as, String.ofList r'.lead, []⟩ es).element = .node tag as "" es := by
      simp [Open.add, Open.element, filled]
    rw [takeTags, takeTag_open name names, String.toList_ofList, decode?_of_not_mem (plain'.not_mem (by decide)),
      Option.map_some, Option.bind_some, taken', takeTags, takeTag_end named, Option.bind_some, whole]

theorem blank_lineBreak (level : Nat) : ∀ c ∈ (lineBreak level).toList, c = ' ' ∨ c = '\n' := by
  intro c mem
  simp only [lineBreak, String.toList_append, String.toList_ofList, List.mem_append, List.mem_replicate] at mem
  rcases mem with feed | ⟨-, blank⟩
  · exact Or.inr (List.mem_singleton.1 feed)
  · exact Or.inl blank

theorem reads_renderEach {es : List Element} (level : Nat) (each : ∀ e ∈ es, Reads (e.renderAt level).toList [e]) :
    Reads (renderEach level es).toList es := by
  induction es with
  | nil => exact .blank (by simp [renderEach])
  | cons e es ih =>
    obtain ⟨here, others⟩ := List.forall_mem_cons.1 each
    rw [renderEach, String.toList_append, String.toList_append]
    exact ((Reads.blank (blank_lineBreak level)).append here).append (ih others)

/-- **A written element is read as what it is.** -/
theorem reads_renderAt {e : Element} (proper : e.Proper) (level : Nat) : Reads (e.renderAt level).toList [e] := by
  induction proper generalizing level with
  | @node tag as text es name names single _ ih =>
    cases es with
    | nil =>
      rw [Element.renderAt]
      split
      · next empty =>
        rw [String.isEmpty_iff.1 empty]
        exact reads_empty name names
      · exact reads_leaf name names text
    | cons e es =>
      have inside := (reads_renderEach (level + 1) fun e mem => ih e mem (level + 1)).append (.blank (blank_lineBreak level))
      rw [List.append_nil, ← String.toList_append] at inside
      have whole := reads_around name names (List.cons_ne_nil e es) inside
      rw [← String.append_assoc] at whole
      rw [Element.renderAt, single (List.cons_ne_nil e es)]
      exact whole

end Elements

/-- The first tag of a document. -/
def declaration : String := "?xml version=\"1.0\" encoding=\"UTF-8\"?"

theorem toList_document (e : Element) :
    e.document.toList = '<' :: (declaration.toList ++ '>' :: '\n' :: (e.renderAt 0).toList) := by
  have first : "<?xml version=\"1.0\" encoding=\"UTF-8\"?>\n".toList = '<' :: (declaration.toList ++ ['>', '\n']) := by decide
  refine String.toList_append.trans ?_
  rw [first, List.cons_append, List.append_assoc]
  rfl

theorem takeTag_declaration (text : String) (o : Open) (below : List Open) :
    takeTag ⟨declaration, text⟩ (o :: below) = some (o :: below) := by
  have chars : declaration.toList = '?' :: declaration.toList.tail := by decide
  rw [takeTag]
  split
  · rfl
  · next eq =>
    rw [chars] at eq
    cases eq
  · next opens _ => exact absurd chars (opens _)

/-- **A document comes back** as the element that it was made of. -/
theorem read?_document {e : Element} (proper : e.Proper) : read? e.document = some e := by
  obtain ⟨r, plain, text, taken⟩ := reads_renderAt proper 0 ⟨[], []⟩ ⟨by simp, by simp⟩
  have chars : e.document.toList = (⟨declaration, String.ofList ('\n' :: r.lead)⟩ :: r.tags).flatMap Page.Element.written := by
    have rest : (e.renderAt 0).toList = r.lead ++ r.tags.flatMap Page.Element.written := by simpa [Rest.text] using text.symm
    rw [toList_document, rest, List.flatMap_cons, Page.Element.written]
    simp only [String.toList_ofList, List.append_assoc, List.cons_append]
  have read : Page.elements e.document = ⟨declaration, String.ofList ('\n' :: r.lead)⟩ :: r.tags := by
    refine Page.elements_of_written (List.forall_mem_cons.2 ⟨⟨(by decide : '>' ∉ declaration.toList), ?_⟩, plain.tags⟩) chars
    rw [String.toList_ofList, List.mem_cons, not_or]
    exact ⟨by decide, plain.not_mem (by decide)⟩
  rw [read?, read, takeTags, takeTag_declaration, Option.bind_some, taken]
  rfl

end Reading

end DeadCode.Markup
