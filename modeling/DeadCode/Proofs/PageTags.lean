import DeadCode.Proofs.Grouping
import DeadCode.Proofs.PageReading
import DeadCode.Proofs.TextPieces
import DeadCode.Report.Html

/-!
# What a page shows

Below its head, a page is a list of tags, each with a text after it, in which the texts of the issues are escaped
(`toList_html`). So the tags depend on the rules and the severities of the issues only, and the cells of the tables show the
issues as they are (`html_shows_issues`).
-/

namespace DeadCode.Report
set_option autoImplicit false

open Page (Element References)

section Texts

theorem toList_htmlText (s : String) : (htmlText s).toList = s.toList.flatMap htmlChar := String.toList_ofList

/-- No escaped text opens a tag. -/
theorem less_not_mem_htmlText (s : String) : '<' ∉ (htmlText s).toList := by
  rw [toList_htmlText]
  intro mem
  obtain ⟨c, -, inside⟩ := List.mem_flatMap.1 mem
  revert inside
  unfold htmlChar
  repeat' split
  all_goals grind

/-- The first sign of an escaped text is read as what it was. -/
theorem decodeFrom_htmlChar (refs : References) (c : Char) (rest : List Char) :
    refs.decodeFrom 0 (htmlChar c ++ rest) = c :: refs.decodeFrom 0 rest := by
  -- the names and the number end in semicolons, so what follows is not looked at
  have named {name value : List Char} (known : refs.named name = some value)
      (read : refs.reference (name ++ rest) = some (name.length, refs.valueOf name)) :
      refs.decodeFrom 0 ('&' :: name ++ rest) = value ++ refs.decodeFrom 0 rest := by
    apply refs.decodeFrom_reference
    rw [read, refs.valueOf_of_named known]
  have numbered : refs.reference (['#', 'x', '2', '7', ';'] ++ rest) = some (5, ['\'']) := by
    rw [← refs.apostrophe]
    rfl
  by_cases ampersand : c = '&'
  · subst ampersand
    exact named refs.ampersand rfl
  by_cases less : c = '<'
  · subst less
    exact named refs.less rfl
  by_cases greater : c = '>'
  · subst greater
    exact named refs.greater rfl
  by_cases quote : c = '"'
  · subst quote
    exact named refs.quote rfl
  by_cases apostrophe : c = '\''
  · subst apostrophe
    exact refs.decodeFrom_reference rest numbered
  · have itself : htmlChar c = [c] := by simp [htmlChar, ampersand, less, greater, quote, apostrophe]
    rw [itself, List.singleton_append, References.decodeFrom, if_neg ampersand]

/-- **An escaped text stands for the text.** -/
theorem decode_htmlText (refs : References) (s : String) : refs.decode (htmlText s) = s := by
  have chars (cs : List Char) : refs.decodeFrom 0 (cs.flatMap htmlChar) = cs := by
    induction cs with
    | nil => rfl
    | cons c cs ih => rw [List.flatMap_cons, decodeFrom_htmlChar, ih]
  rw [References.decode, toList_htmlText, chars, String.ofList_toList]

end Texts

/-- A cell of a table. -/
def cellElements (tag text : String) : List Element := [⟨tag, text⟩, ⟨"/td", ""⟩]

/-- The row of an issue. -/
def rowElements (r : Report) (i : Issue) : List Element :=
  [⟨"tr", ""⟩] ++ cellElements ("td class=\"" ++ i.severity.label ++ "\"") i.severity.label ++
    cellElements "td" (htmlText i.symbol) ++ cellElements "td" (htmlText (r.pathOf i)) ++
    cellElements "td" (shownLine i.line) ++ cellElements "td" (htmlText i.message) ++ [⟨"/tr", "\n"⟩]

/-- The first row of a table. -/
def headerElements : List Element := [
  ⟨"tr", ""⟩, ⟨"th", "Severity"⟩, ⟨"/th", ""⟩, ⟨"th", "Symbol"⟩, ⟨"/th", ""⟩, ⟨"th", "File"⟩, ⟨"/th", ""⟩, ⟨"th", "Line"⟩,
  ⟨"/th", ""⟩, ⟨"th", "Message"⟩, ⟨"/th", ""⟩, ⟨"/tr", "\n"⟩]

/-- The table of a rule. -/
def sectionElements (r : Report) (g : String × List Issue) : List Element :=
  [⟨"h2", htmlText g.1 ++ " (" ++ toString g.2.length ++ ")"⟩, ⟨"/h2", "\n"⟩, ⟨"table", "\n"⟩] ++ headerElements ++
    g.2.flatMap r.rowElements ++ [⟨"/table", "\n"⟩]

/-- The tables of a page. -/
def tableElements (r : Report) : List Element :=
  if r.issues.isEmpty then [⟨"p", "No dead code found!"⟩, ⟨"/p", "\n"⟩] else r.ruleGroups.flatMap r.sectionElements

/-- A page from its counts on. -/
def pageElements (r : Report) : List Element :=
  [⟨"p", htmlText r.htmlSummary⟩, ⟨"/p", "\n"⟩] ++ r.tableElements ++ [⟨"/body", "\n"⟩, ⟨"/html", "\n"⟩]

section Writing

/-- Lines with a line end after each. -/
theorem toList_join_append {lines : List String} (filled : lines ≠ []) :
    (Text.join "\n" lines).toList ++ ['\n'] = lines.flatMap fun line => line.toList ++ ['\n'] := by
  have filled : lines.map String.toList ≠ [] := by simpa using filled
  rw [Text.join, String.toList_intercalate, ← List.flatMap_map String.toList (· ++ ['\n'])]
  exact Text.intercalate_append '\n' filled

/-- Texts, each on lines of its own, are written tag by tag. -/
theorem toList_lines {α : Type} {f : α → String} {es : α → List Element} {xs : List α} (filled : xs ≠ [])
    (each : ∀ a ∈ xs, (f a).toList ++ ['\n'] = (es a).flatMap Element.written) :
    (Text.join "\n" (xs.map f)).toList ++ ['\n'] = (xs.flatMap es).flatMap Element.written := by
  rw [toList_join_append (by simpa using filled), List.flatMap_map, List.flatMap_assoc]
  exact List.flatMap_congr each

theorem toList_htmlRow (r : Report) (i : Issue) :
    (r.htmlRow i).toList ++ ['\n'] = (r.rowElements i).flatMap Element.written := by
  have first : "<tr><td class=\"".toList = Element.written ⟨"tr", ""⟩ ++ '<' :: "td class=\"".toList := by decide
  have close : "\">".toList = "\"".toList ++ ['>'] := by decide
  have next : "</td><td>".toList = Element.written ⟨"/td", ""⟩ ++ '<' :: "td".toList ++ ['>'] := by decide
  have last : "</td></tr>".toList ++ ['\n'] = Element.written ⟨"/td", ""⟩ ++ Element.written ⟨"/tr", "\n"⟩ := by decide
  unfold htmlRow rowElements cellElements
  simp only [String.toList_append, List.append_assoc, first, close, next, last]
  simp only [List.flatMap_cons, List.flatMap_nil, Element.written, String.toList_append, List.append_assoc,
    List.cons_append, List.nil_append, List.append_nil]

theorem toList_htmlSection (r : Report) {g : String × List Issue} (filled : g.2 ≠ []) :
    (r.htmlSection g).toList ++ ['\n'] = (r.sectionElements g).flatMap Element.written := by
  have first : "<h2>".toList = '<' :: "h2".toList ++ ['>'] := by decide
  have table : ")</h2>\n<table>\n".toList = ")".toList ++ Element.written ⟨"/h2", "\n"⟩ ++ Element.written ⟨"table", "\n"⟩ := by decide
  have header : "<tr><th>Severity</th><th>Symbol</th><th>File</th><th>Line</th><th>Message</th></tr>\n".toList =
      headerElements.flatMap Element.written := by decide
  have last : "\n</table>".toList ++ ['\n'] = ['\n'] ++ Element.written ⟨"/table", "\n"⟩ := by decide
  have rows := toList_lines filled fun i _ => toList_htmlRow r i
  unfold htmlSection sectionElements
  simp only [String.toList_append, List.append_assoc, first, table, header, last]
  rw [← List.append_assoc (Text.join _ _).toList, rows]
  simp only [List.flatMap_append, List.flatMap_cons, List.flatMap_nil, Element.written, String.toList_append,
    List.append_assoc, List.cons_append, List.nil_append, List.append_nil]

theorem ruleGroups_ne_nil {r : Report} (filled : r.issues ≠ []) : r.ruleGroups ≠ [] := by
  obtain ⟨i, given⟩ := List.exists_mem_of_ne_nil _ filled
  exact List.ne_nil_of_mem (List.mem_map_of_mem (Text.mem_sortUnique.2 (List.mem_map_of_mem given)))

theorem toList_tables (r : Report) :
    (Text.join "\n" (if r.issues.isEmpty then ["<p>No dead code found!</p>"] else r.ruleGroups.map r.htmlSection)).toList ++
      ['\n'] = r.tableElements.flatMap Element.written := by
  unfold tableElements
  split
  · decide
  · next filled =>
    rw [List.isEmpty_iff] at filled
    exact toList_lines (ruleGroups_ne_nil filled) fun g mem => toList_htmlSection r (group_ne_nil mem)

/-- **A page is written tag by tag** below its head. -/
theorem toList_html (r : Report) : r.html.toList = (htmlHead.toList ++ ['\n']) ++ r.pageElements.flatMap Element.written := by
  have first : "\n<p>".toList = ['\n'] ++ '<' :: "p".toList ++ ['>'] := by decide
  have next : "</p>\n".toList = Element.written ⟨"/p", "\n"⟩ := by decide
  have last : "\n</body>\n</html>\n".toList = ['\n'] ++ Element.written ⟨"/body", "\n"⟩ ++ Element.written ⟨"/html", "\n"⟩ := by decide
  unfold html pageElements
  simp only [String.toList_append, List.append_assoc, first, next, last]
  rw [← List.append_assoc (Text.join _ _).toList, toList_tables]
  simp only [List.flatMap_append, List.flatMap_cons, List.flatMap_nil, Element.written, List.append_assoc,
    List.cons_append, List.nil_append, List.append_nil]

end Writing

section Head

/-- The line closes its tags, none of which opens a cell. -/
def quiet (line : List Char) : Bool :=
  Page.endsOutside false line && (Page.readText line).2.all fun e => !Page.opensCell e.1

theorem exists_tags_lines {lines : List String} (filled : lines ≠ []) (each : ∀ line ∈ lines, quiet line.toList = true) :
    ∃ ts, (∀ t ∈ ts, Page.opensCell t = false) ∧ Page.Leads ((Text.join "\n" lines).toList ++ ['\n']) ts := by
  have feed : Page.Leads ['\n'] [] := Page.leads_of_endsOutside rfl
  refine ⟨lines.flatMap fun line => (Page.readText line.toList).2.map Prod.fst ++ [], ?_, ?_⟩
  · intro t mem
    obtain ⟨line, given, tag⟩ := List.mem_flatMap.1 mem
    rw [List.append_nil] at tag
    obtain ⟨e, read, rfl⟩ := List.mem_map.1 tag
    have all := (Bool.and_eq_true_iff.1 (each line given)).2
    simpa using List.all_eq_true.1 all e read
  · rw [toList_join_append filled]
    apply Page.Leads.flatMap
    intro line given
    exact (Page.leads_of_endsOutside (Bool.and_eq_true_iff.1 (each line given)).1).append feed

theorem exists_tags_head : ∃ ts, (∀ t ∈ ts, Page.opensCell t = false) ∧ Page.Leads (htmlHead.toList ++ ['\n']) ts := by
  unfold htmlHead
  apply exists_tags_lines (by simp)
  decide +kernel

end Head

section Plain

theorem not_mem_shownLine {c : Char} (other : c.isDigit = false) (minus : c ≠ '-') (line : Int) :
    c ∉ (shownLine line).toList := by
  unfold shownLine
  split
  · exact List.not_mem_nil
  · exact Text.not_mem_toString_int other minus

theorem plain_cellElements {tag text : String} (closed : '>' ∉ tag.toList) (free : '<' ∉ text.toList) :
    ∀ e ∈ cellElements tag text, e.Plain :=
  List.forall_mem_cons.2 ⟨⟨closed, free⟩, by decide⟩

theorem plain_rowElements (r : Report) (i : Issue) : ∀ e ∈ r.rowElements i, e.Plain := by
  have level : '>' ∉ ("td class=\"" ++ i.severity.label ++ "\"").toList := by cases i.severity <;> decide
  have label : '<' ∉ i.severity.label.toList := by cases i.severity <;> decide
  have cell {text : String} (free : '<' ∉ text.toList) : ∀ e ∈ cellElements "td" text, e.Plain :=
    plain_cellElements (by decide) free
  unfold rowElements
  simp only [List.forall_mem_append]
  exact ⟨⟨⟨⟨⟨⟨by decide, plain_cellElements level label⟩, cell (less_not_mem_htmlText _)⟩, cell (less_not_mem_htmlText _)⟩,
    cell (not_mem_shownLine rfl (by decide) _)⟩, cell (less_not_mem_htmlText _)⟩, by decide⟩

theorem plain_sectionElements (r : Report) (g : String × List Issue) : ∀ e ∈ r.sectionElements g, e.Plain := by
  have heading : '<' ∉ (htmlText g.1 ++ " (" ++ toString g.2.length ++ ")").toList := by
    have count : '<' ∉ (toString (g.2.length : Int)).toList := Text.not_mem_toString_int rfl (by decide)
    simp only [String.toList_append, List.mem_append, not_or]
    exact ⟨⟨⟨less_not_mem_htmlText g.1, by decide⟩, count⟩, by decide⟩
  unfold sectionElements
  simp only [List.forall_mem_append]
  refine ⟨⟨⟨List.forall_mem_cons.2 ⟨⟨(by decide : '>' ∉ "h2".toList), heading⟩, by decide⟩, by decide⟩, ?_⟩, by decide⟩
  intro e mem
  obtain ⟨i, -, inside⟩ := List.mem_flatMap.1 mem
  exact plain_rowElements r i e inside

theorem plain_pageElements (r : Report) : ∀ e ∈ r.pageElements, e.Plain := by
  unfold pageElements tableElements
  simp only [List.forall_mem_append]
  refine ⟨⟨List.forall_mem_cons.2 ⟨⟨(by decide : '>' ∉ "p".toList), less_not_mem_htmlText _⟩, by decide⟩, ?_⟩, by decide⟩
  split
  · decide
  · intro e mem
    obtain ⟨g, -, inside⟩ := List.mem_flatMap.1 mem
    exact plain_sectionElements r g e inside

end Plain

section Tags

/-- The tags of a row. -/
def rowTags (s : Severity) : List String := [
  "tr", "td class=\"" ++ s.label ++ "\"", "/td", "td", "/td", "td", "/td", "td", "/td", "td", "/td", "/tr"]

/-- The tags of the table of a rule. -/
def sectionTags (ss : List Severity) : List String :=
  ["h2", "/h2", "table"] ++ headerElements.map Element.tag ++ ss.flatMap rowTags ++ ["/table"]

/-- The rules and the severities of the issues. -/
def outline (r : Report) : List (String × Severity) := r.issues.map fun i => (i.rule, i.severity)

/-- The tags of a page from its counts on, by rules and severities. -/
def pageTags (is : List (String × Severity)) : List String :=
  ["p", "/p"] ++
    (if is.isEmpty then ["p", "/p"]
      else (Text.sortUnique (is.map Prod.fst)).flatMap fun rule => sectionTags ((is.filter (·.1 == rule)).map Prod.snd)) ++
    ["/body", "/html"]

theorem map_tag_sectionElements (r : Report) (g : String × List Issue) :
    (r.sectionElements g).map Element.tag = sectionTags (g.2.map Issue.severity) := by
  unfold sectionElements sectionTags
  rw [List.map_append, List.map_append, List.map_append, List.map_flatMap, List.flatMap_map]
  rfl

theorem map_tag_pageElements (r : Report) : r.pageElements.map Element.tag = pageTags r.outline := by
  have tables : r.tableElements.map Element.tag = if r.outline.isEmpty then ["p", "/p"]
      else (Text.sortUnique (r.outline.map Prod.fst)).flatMap fun rule =>
        sectionTags ((r.outline.filter (·.1 == rule)).map Prod.snd) := by
    unfold tableElements outline
    rw [List.isEmpty_map, List.map_map]
    split
    · rfl
    · rw [List.map_flatMap, ruleGroups, groupBy, List.flatMap_map]
      apply List.flatMap_congr
      intro rule _
      rw [map_tag_sectionElements, List.filter_map, List.map_map]
      rfl
  unfold pageElements pageTags
  rw [List.map_append, List.map_append, tables]
  rfl

end Tags

section Cells

/-- What the cells of the row of an issue are to tell. -/
def rowTexts (r : Report) (i : Issue) : List String :=
  [i.severity.label, i.symbol, r.pathOf i, shownLine i.line, i.message]

/-- The issues as the page shows them: rule by rule. -/
def shownIssues (r : Report) : List Issue := r.ruleGroups.flatMap Prod.snd

theorem shownIssues_perm (r : Report) : r.shownIssues.Perm r.issues := flatMap_groupBy_perm Issue.rule r.issues

theorem cellTexts_cellElements {tag : String} (opens : Page.opensCell tag.toList = true) (text : String) :
    Page.cellTexts (cellElements tag text) = [text] := by
  have closes : Page.opensCell "/td".toList = false := by decide
  unfold cellElements
  simp only [Page.cellTexts, List.filter_cons, opens, closes, if_true, List.filter_nil, List.map_cons]
  rfl

/-- The cells of a row tell the issue. -/
theorem decode_rowElements (refs : References) (r : Report) (i : Issue) :
    (Page.cellTexts (r.rowElements i)).map refs.decode = r.rowTexts i := by
  have level : Page.opensCell ("td class=\"" ++ i.severity.label ++ "\"").toList = true := by cases i.severity <;> decide
  have label : '&' ∉ i.severity.label.toList := by cases i.severity <;> decide
  have line : '&' ∉ (shownLine i.line).toList := not_mem_shownLine rfl (by decide) _
  have cell (text : String) : Page.cellTexts (cellElements "td" text) = [text] := cellTexts_cellElements (by decide) text
  have first : Page.cellTexts [⟨"tr", ""⟩] = [] := Page.cellTexts_eq_nil (by decide)
  have last : Page.cellTexts [⟨"/tr", "\n"⟩] = [] := Page.cellTexts_eq_nil (by decide)
  unfold rowElements
  simp only [Page.cellTexts_append, cellTexts_cellElements level, cell, first, last, List.map_append, List.map_cons,
    List.map_nil, refs.decode_of_not_mem label, refs.decode_of_not_mem line, decode_htmlText]
  rfl

theorem decode_sectionElements (refs : References) (r : Report) (g : String × List Issue) :
    (Page.cellTexts (r.sectionElements g)).map refs.decode = g.2.flatMap r.rowTexts := by
  have heading (text : String) : Page.cellTexts [⟨"h2", text⟩, ⟨"/h2", "\n"⟩, ⟨"table", "\n"⟩] = [] :=
    Page.cellTexts_eq_nil (List.forall_mem_cons.2 ⟨(by decide : Page.opensCell "h2".toList = false), by decide⟩)
  have header : Page.cellTexts headerElements = [] := Page.cellTexts_eq_nil (by decide)
  have last : Page.cellTexts [⟨"/table", "\n"⟩] = [] := Page.cellTexts_eq_nil (by decide)
  unfold sectionElements
  rw [Page.cellTexts_append, Page.cellTexts_append, Page.cellTexts_append, heading, header, last, Page.cellTexts_flatMap,
    List.nil_append, List.nil_append, List.append_nil, List.map_flatMap]
  exact List.flatMap_congr fun i _ => decode_rowElements refs r i

/-- **The cells of a page tell the issues.** -/
theorem decode_pageElements (refs : References) (r : Report) :
    (Page.cellTexts r.pageElements).map refs.decode = r.shownIssues.flatMap r.rowTexts := by
  have counts : Page.cellTexts [⟨"p", htmlText r.htmlSummary⟩, ⟨"/p", "\n"⟩] = [] :=
    Page.cellTexts_eq_nil (List.forall_mem_cons.2 ⟨(by decide : Page.opensCell "p".toList = false), by decide⟩)
  have last : Page.cellTexts [⟨"/body", "\n"⟩, ⟨"/html", "\n"⟩] = [] := Page.cellTexts_eq_nil (by decide)
  unfold pageElements tableElements
  rw [Page.cellTexts_append, Page.cellTexts_append, counts, last, List.nil_append, List.append_nil]
  split
  · next none =>
    have shown := shownIssues_perm r
    rw [List.isEmpty_iff.1 none] at shown
    rw [shown.eq_nil, Page.cellTexts_eq_nil (by decide)]
    rfl
  · rw [Page.cellTexts_flatMap, List.map_flatMap, shownIssues, List.flatMap_assoc]
    exact List.flatMap_congr fun g _ => decode_sectionElements refs r g

end Cells

/-- Below its head, a page is read as it is written. -/
theorem exists_elements_html {ts : List (List Char)} (leads : Page.Leads (htmlHead.toList ++ ['\n']) ts) (r : Report) :
    ∃ es, Page.elements r.html = es ++ r.pageElements ∧ es.map (·.tag.toList) = ts := by
  obtain ⟨y, es, read, tags⟩ := leads (r.pageElements.flatMap Element.written)
  refine ⟨es.map fun e => ⟨String.ofList e.1, String.ofList e.2⟩, ?_, ?_⟩
  · rw [Page.elements, toList_html, read, Page.readText_written (plain_pageElements r)]
    simp only [List.map_append, List.map_map, Function.comp_def, String.ofList_toList, List.map_id']
  · rw [← tags, List.map_map]
    exact List.map_congr_left fun e _ => String.toList_ofList

/-- **A page shows the issues, whatever their texts.** The tags on the pages of two reports are the same if the rules and the
severities of their issues are. The cells of its tables, read with the characters that they refer to, are those of all issues:
of each one the severity, the symbol, the path as shown, the line and the message. -/
theorem html_shows_issues (refs : References) {r r' : Report} (same : r.outline = r'.outline) :
    Page.tags r.html = Page.tags r'.html ∧
    (Page.cells r.html).map refs.decode = r.shownIssues.flatMap r.rowTexts ∧ r.shownIssues.Perm r.issues := by
  obtain ⟨ts, noCell, leads⟩ := exists_tags_head
  obtain ⟨es, read, head⟩ := exists_elements_html leads r
  obtain ⟨es', read', head'⟩ := exists_elements_html leads r'
  refine ⟨?_, ?_, shownIssues_perm r⟩
  · have heads : es.map Element.tag = es'.map Element.tag := by
      apply List.map_injective_iff.2 fun _ _ => String.toList_injective
      rw [List.map_map, List.map_map]
      exact head.trans head'.symm
    rw [Page.tags, Page.tags, read, read', List.map_append, List.map_append, heads, map_tag_pageElements,
      map_tag_pageElements, same]
  · have none : Page.cellTexts es = [] := by
      apply Page.cellTexts_eq_nil
      intro e given
      exact noCell _ (head ▸ List.mem_map_of_mem given)
    rw [Page.cells, read, Page.cellTexts_append, none, List.nil_append, decode_pageElements]

/-- The characters that a page refers to. -/
def pageReferences : References where
  named name := List.lookup name [(['a', 'm', 'p', ';'], ['&']), (['l', 't', ';'], ['<']), (['g', 't', ';'], ['>']),
    (['q', 'u', 'o', 't', ';'], ['"'])]
  numbered n := [Char.ofNat n]
  ampersand := by decide
  less := by decide
  greater := by decide
  quote := by decide
  apostrophe := by decide

/-- A report on one class, with texts of its own. -/
def aboutClass (symbol file message : String) (frameworks : List String) : Report := {
  issues := [{ rule := "unused-classes", symbol, file, line := 3, message }]
  frameworks
  root := some (Path.ofString "/shop") }

/-- Texts that look like tags and references. -/
def hostile : Report := aboutClass "<b>" "/shop/&lt;.php" "</td><td class=\"&#x27;'\">" ["</p><p>"]

theorem html_shows_issues_hostile :
    Page.tags hostile.html = Page.tags (aboutClass "B" "/shop/b.php" "" []).html ∧
    (Page.cells hostile.html).map pageReferences.decode =
      ["warning", "<b>", "&lt;.php", "3", "</td><td class=\"&#x27;'\">"] := by
  have same : hostile.outline = (aboutClass "B" "/shop/b.php" "" []).outline := rfl
  obtain ⟨tags, cells, -⟩ := html_shows_issues pageReferences same
  refine ⟨tags, cells.trans ?_⟩
  decide +kernel

end DeadCode.Report
