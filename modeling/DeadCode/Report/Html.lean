import DeadCode.Report.Basic

/-!
# Reports as a page

A page with a line of counts and one table for each rule.
-/

namespace DeadCode.Report
set_option autoImplicit false

/-- One character of a page. -/
def htmlChar (c : Char) : List Char :=
  if c == '&' then "&amp;".toList
  else if c == '<' then "&lt;".toList
  else if c == '>' then "&gt;".toList
  else if c == '"' then "&quot;".toList
  else if c == '\'' then "&#x27;".toList
  else [c]

/-- A text on a page. -/
def htmlText (s : String) : String := String.ofList (s.toList.flatMap htmlChar)

/-- The row of an issue. -/
def htmlRow (r : Report) (i : Issue) : String :=
  let level := i.severity.label
  "<tr><td class=\"" ++ level ++ "\">" ++ level ++ "</td><td>" ++ htmlText i.symbol ++ "</td><td>" ++
    htmlText (r.pathOf i) ++ "</td><td>" ++ shownLine i.line ++ "</td><td>" ++ htmlText i.message ++ "</td></tr>"

/-- The table of a rule. -/
def htmlSection (r : Report) (g : String × List Issue) : String :=
  "<h2>" ++ htmlText g.1 ++ " (" ++ toString g.2.length ++ ")</h2>\n<table>\n" ++
    "<tr><th>Severity</th><th>Symbol</th><th>File</th><th>Line</th><th>Message</th></tr>\n" ++
    Text.join "\n" (g.2.map r.htmlRow) ++ "\n</table>"

/-- The line of counts. -/
def htmlSummary (r : Report) : String :=
  let counts := toString r.files ++ " file(s) analysed, " ++ toString r.symbols ++ " symbol(s), " ++
    toString r.issues.length ++ " issue(s)"
  if r.frameworks.isEmpty then counts else counts ++ " - frameworks: " ++ Text.join ", " r.frameworks

/-- What stands above the counts. -/
def htmlHead : String := Text.join "\n" [
  "<!DOCTYPE html>", "<html lang=\"en\">", "<head>", "<meta charset=\"utf-8\">", "<title>PHP Janitor report</title>", "<style>",
  "body \x7b font-family: sans-serif; margin: 2em; \x7d",
  "table \x7b border-collapse: collapse; width: 100%; margin-bottom: 2em; \x7d",
  "th, td \x7b border: 1px solid #ccc; padding: 4px 8px; text-align: left; \x7d",
  "th \x7b background: #f4f4f4; \x7d",
  ".error \x7b color: #b00020; font-weight: bold; \x7d",
  ".warning \x7b color: #b26a00; \x7d",
  ".info \x7b color: #666; \x7d",
  "</style>", "</head>", "<body>", "<h1>PHP Janitor report</h1>"]

/-- The report as a page. -/
def html (r : Report) : String :=
  let sections := if r.issues.isEmpty then ["<p>No dead code found!</p>"] else r.ruleGroups.map r.htmlSection
  htmlHead ++ "\n<p>" ++ htmlText r.htmlSummary ++ "</p>\n" ++ Text.join "\n" sections ++ "\n</body>\n</html>\n"

end DeadCode.Report
