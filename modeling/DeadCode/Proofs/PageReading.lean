import DeadCode.Json.Reader

/-!
# Reading a page

What a reader makes of a page: the tags with the text that follows each of them, and the characters that a text refers to. A
list of tags whose texts hold no angle bracket comes back from the page on which it is written (`readText_written`), also
below a text that closes its tags (`Leads`).
-/

namespace DeadCode.Page
set_option autoImplicit false

/-- A tag, without its brackets, and the text between it and the next one. -/
structure Element where
  tag : String
  text : String

section Reading

mutual

/-- The text before the first tag, and the tags with the text after each. A tag goes from a bracket to the next closing one;
what is never closed is none. -/
def readText : List Char → List Char × List (List Char × List Char)
  | [] => ([], [])
  | c :: cs =>
    if c = '<' then ([], readTag cs)
    else
      let rest := readText cs
      (c :: rest.1, rest.2)

/-- The tags with the text after each, from inside of the first one. -/
def readTag : List Char → List (List Char × List Char)
  | [] => []
  | c :: cs =>
    if c = '>' then
      let rest := readText cs
      ([], rest.1) :: rest.2
    else match readTag cs with
      | [] => []
      | e :: es => (c :: e.1, e.2) :: es

end

/-- The tags of a page with the text after each. -/
def elements (page : String) : List Element :=
  (readText page.toList).2.map fun e => ⟨String.ofList e.1, String.ofList e.2⟩

/-- The tags of a page. -/
def tags (page : String) : List String := (elements page).map Element.tag

/-- Does the tag open a cell of a table? A blank ends the name of a tag. -/
def opensCell (tag : List Char) : Bool := tag.takeWhile (· != ' ') == ['t', 'd']

/-- The texts of the cells among tags. -/
def cellTexts (es : List Element) : List String := (es.filter (opensCell ·.tag.toList)).map Element.text

/-- The texts of the cells of the tables on a page. -/
def cells (page : String) : List String := cellTexts (elements page)

/-- The tag with its brackets and the text after it. -/
def Element.written (e : Element) : List Char := '<' :: e.tag.toList ++ '>' :: e.text.toList

/-- The brackets of the tag are the only ones. -/
structure Element.Plain (e : Element) : Prop where
  tag : '>' ∉ e.tag.toList
  text : '<' ∉ e.text.toList

instance (e : Element) : Decidable e.Plain :=
  decidable_of_iff ('>' ∉ e.tag.toList ∧ '<' ∉ e.text.toList)
    ⟨fun both => ⟨both.1, both.2⟩, fun plain => ⟨plain.tag, plain.text⟩⟩

theorem cellTexts_eq_nil {es : List Element} (other : ∀ e ∈ es, opensCell e.tag.toList = false) : cellTexts es = [] := by
  rw [cellTexts, List.filter_eq_nil_iff.2, List.map_nil]
  intro e mem
  simp [other e mem]

theorem cellTexts_append (es es' : List Element) : cellTexts (es ++ es') = cellTexts es ++ cellTexts es' := by
  rw [cellTexts, List.filter_append, List.map_append]
  rfl

theorem cellTexts_flatMap {α : Type} (f : α → List Element) (xs : List α) :
    cellTexts (xs.flatMap f) = xs.flatMap fun a => cellTexts (f a) := by
  simp only [cellTexts, List.filter_flatMap, List.map_flatMap]

theorem readText_append {x : List Char} (free : '<' ∉ x) (cs : List Char) :
    readText (x ++ cs) = (x ++ (readText cs).1, (readText cs).2) := by
  induction x with
  | nil => rfl
  | cons c x ih =>
    rw [List.mem_cons, not_or] at free
    rw [List.cons_append, readText, if_neg (Ne.symm free.1), ih free.2]
    rfl

theorem readTag_append {t : List Char} (free : '>' ∉ t) (cs : List Char) :
    readTag (t ++ '>' :: cs) = (t, (readText cs).1) :: (readText cs).2 := by
  induction t with
  | nil => rw [List.nil_append, readTag, if_pos rfl]
  | cons c t ih =>
    rw [List.mem_cons, not_or] at free
    rw [List.cons_append, readTag, if_neg (Ne.symm free.1), ih free.2]

theorem readText_written {es : List Element} (plain : ∀ e ∈ es, e.Plain) :
    readText (es.flatMap Element.written) = ([], es.map fun e => (e.tag.toList, e.text.toList)) := by
  induction es with
  | nil => rfl
  | cons e es ih =>
    obtain ⟨here, others⟩ := List.forall_mem_cons.1 plain
    rw [List.flatMap_cons, Element.written, List.cons_append, List.cons_append, List.append_assoc, readText, if_pos rfl,
      List.cons_append, readTag_append here.tag, readText_append here.text, ih others, List.append_nil, List.map_cons]

theorem elements_of_written {page : String} {es : List Element} (plain : ∀ e ∈ es, e.Plain)
    (chars : page.toList = es.flatMap Element.written) : elements page = es := by
  rw [elements, chars, readText_written plain]
  simp only [List.map_map, Function.comp_def, String.ofList_toList, List.map_id']

/-- Whatever follows the text is read as if it stood alone, below the tags of the text: none of them is left open. -/
def Leads (x : List Char) (ts : List (List Char)) : Prop :=
  ∀ rest, ∃ y es, readText (x ++ rest) = (y, es ++ (readText rest).2) ∧ es.map Prod.fst = ts

theorem Leads.nil : Leads [] [] := fun rest => ⟨(readText rest).1, [], rfl, rfl⟩

theorem Leads.append {x y : List Char} {ts us : List (List Char)} (first : Leads x ts) (second : Leads y us) :
    Leads (x ++ y) (ts ++ us) := by
  intro rest
  obtain ⟨z, es, read, tags⟩ := first (y ++ rest)
  obtain ⟨z', es', read', tags'⟩ := second rest
  refine ⟨z, es ++ es', ?_, by rw [List.map_append, tags, tags']⟩
  rw [List.append_assoc, read, read', List.append_assoc]

theorem Leads.flatMap {α : Type} {f : α → List Char} {ts : α → List (List Char)} {xs : List α}
    (each : ∀ a ∈ xs, Leads (f a) (ts a)) : Leads (xs.flatMap f) (xs.flatMap ts) := by
  induction xs with
  | nil => exact .nil
  | cons a xs ih =>
    obtain ⟨here, others⟩ := List.forall_mem_cons.1 each
    exact here.append (ih others)

/-- Is no tag open at the end? -/
def endsOutside (inside : Bool) : List Char → Bool
  | [] => !inside
  | c :: cs => endsOutside (if inside then c != '>' else c == '<') cs

theorem leads_of_endsOutside {x : List Char} (ends : endsOutside false x = true) :
    Leads x ((readText x).2.map Prod.fst) := by
  intro rest
  -- inside of a tag, the tag is the first of those that follow
  suffices both : ∀ x, (endsOutside false x = true → ∃ y es, readText (x ++ rest) = (y, es ++ (readText rest).2) ∧
        es.map Prod.fst = (readText x).2.map Prod.fst) ∧
      (endsOutside true x = true → ∃ e es, readTag (x ++ rest) = e :: es ++ (readText rest).2 ∧
        (e :: es).map Prod.fst = (readTag x).map Prod.fst) from (both x).1 ends
  intro x
  induction x with
  | nil => exact ⟨fun _ => ⟨_, [], rfl, rfl⟩, fun ends => by cases ends⟩
  | cons c x ih =>
    constructor
    · intro ends
      rw [List.cons_append, readText, readText]
      by_cases opens : c = '<'
      · subst opens
        obtain ⟨e, es, read, tags⟩ := ih.2 ends
        exact ⟨[], e :: es, by rw [if_pos rfl, read], by rw [if_pos rfl]; exact tags⟩
      · rw [endsOutside, if_neg (by decide), beq_eq_false_iff_ne.2 opens] at ends
        obtain ⟨y, es, read, tags⟩ := ih.1 ends
        exact ⟨c :: y, es, by rw [if_neg opens, read], by rw [if_neg opens]; exact tags⟩
    · intro ends
      rw [List.cons_append, readTag, readTag]
      by_cases closes : c = '>'
      · subst closes
        obtain ⟨y, es, read, tags⟩ := ih.1 ends
        refine ⟨([], y), es, by rw [if_pos rfl, read]; rfl, ?_⟩
        rw [if_pos rfl, List.map_cons, tags, List.map_cons]
      · rw [endsOutside, if_pos rfl, bne_iff_ne.2 closes] at ends
        obtain ⟨e, es, read, tags⟩ := ih.2 ends
        refine ⟨(c :: e.1, e.2), es, by rw [if_neg closes, read]; rfl, ?_⟩
        rw [if_neg closes]
        cases first : readTag x with
        | nil => rw [first] at tags; cases tags
        | cons e' es' =>
          rw [first] at tags
          obtain ⟨tag, others⟩ := List.cons.inj tags
          rw [List.map_cons, List.map_cons, tag, others]

end Reading

section References

/-- What names and numbers stand for. A page is written with four of the names and one number. -/
structure References where
  named : List Char → Option (List Char)
  numbered : Nat → List Char
  ampersand : named ['a', 'm', 'p', ';'] = some ['&']
  less : named ['l', 't', ';'] = some ['<']
  greater : named ['g', 't', ';'] = some ['>']
  quote : named ['q', 'u', 'o', 't', ';'] = some ['"']
  apostrophe : numbered 0x27 = ['\'']

namespace References

variable (refs : References)

/-- A character of a name. -/
def isNameChar (c : Char) : Bool := !(['\t', '\n', '\x0c', ' ', '<', '&', '#', ';'].contains c)

/-- A semicolon, if it comes next. -/
def semicolon : List Char → List Char
  | ';' :: _ => [';']
  | _ => []

/-- A number is given by all digits that follow; a semicolon may end it. The length is that of all signs read, of which some
were read before. -/
def number (base before : Nat) (isDigit : Char → Bool) (cs : List Char) : Option (Nat × List Char) :=
  match cs.takeWhile isDigit with
  | [] => none
  | d :: ds => some (before + (d :: ds).length + (semicolon (cs.dropWhile isDigit)).length,
      refs.numbered ((d :: ds).foldl (fun n d => base * n + (Json.hexValue? d).getD 0) 0))

/-- What a name stands for. Of an unknown one, the longest start counts that is known. -/
def valueOf (name : List Char) : List Char :=
  let starts := (List.range (name.length - 2)).map (name.length - 1 - ·)
  ((refs.named name).or (starts.findSome? fun k => (refs.named (name.take k)).map (· ++ name.drop k))).getD ('&' :: name)

/-- What a reference after an ampersand stands for, with its length. -/
def reference : List Char → Option (Nat × List Char)
  | '#' :: 'x' :: cs => refs.number 16 2 (Json.hexValue? · |>.isSome) cs
  | '#' :: 'X' :: cs => refs.number 16 2 (Json.hexValue? · |>.isSome) cs
  | '#' :: cs => refs.number 10 1 Char.isDigit cs
  | cs =>
    match (cs.takeWhile isNameChar).take 32 with
    | [] => none
    | c :: name =>
      let name := c :: name ++ semicolon (cs.drop (c :: name).length)
      some (name.length, refs.valueOf name)

/-- A text with the characters that it refers to, after the signs of a reference that are still to be passed over. -/
def decodeFrom : Nat → List Char → List Char
  | _, [] => []
  | n + 1, _ :: cs => decodeFrom n cs
  | 0, c :: cs =>
    if c = '&' then
      match refs.reference cs with
      | some (n, value) => value ++ decodeFrom n cs
      | none => c :: decodeFrom 0 cs
    else c :: decodeFrom 0 cs

/-- A text with the characters that it refers to. -/
def decode (s : String) : String := String.ofList (refs.decodeFrom 0 s.toList)

/-- A text without ampersands stands for itself. -/
theorem decode_of_not_mem {s : String} (free : '&' ∉ s.toList) : refs.decode s = s := by
  have chars (cs : List Char) (free : '&' ∉ cs) : refs.decodeFrom 0 cs = cs := by
    induction cs with
    | nil => rfl
    | cons c cs ih =>
      rw [List.mem_cons, not_or] at free
      rw [decodeFrom, if_neg (Ne.symm free.1), ih free.2]
  rw [decode, chars _ free, String.ofList_toList]

theorem valueOf_of_named {name value : List Char} (known : refs.named name = some value) : refs.valueOf name = value := by
  rw [valueOf, known]
  rfl

/-- A reference is replaced by what it stands for. -/
theorem decodeFrom_reference {sign value : List Char} (rest : List Char)
    (stands : refs.reference (sign ++ rest) = some (sign.length, value)) :
    refs.decodeFrom 0 ('&' :: sign ++ rest) = value ++ refs.decodeFrom 0 rest := by
  have pass (sign : List Char) : refs.decodeFrom sign.length (sign ++ rest) = refs.decodeFrom 0 rest := by
    induction sign with
    | nil => rfl
    | cons c sign ih => exact ih
  rw [List.cons_append, decodeFrom, if_pos rfl, stands]
  show value ++ refs.decodeFrom sign.length (sign ++ rest) = _
  rw [pass]

end References

end References

end DeadCode.Page
