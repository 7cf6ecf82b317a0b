import DeadCode.Php.Token

/-!
# Reading tokens

`tokens` cuts a source text into tokens and extras. Code may stand inside quoted texts, and quoted texts inside that code,
so the reader keeps a stack of modes. Each step takes at least one character.
-/

namespace DeadCode.Php.Lexer
set_option autoImplicit false

/-- What is being read, inside the outermost code: code in a text, with the braces that are open in it, a text with its
closing mark, or a block of lines with its label. -/
inductive Mode where
  | code (braces : Nat)
  | quoted (mark : Char)
  | block (label : List Char)
  deriving DecidableEq, Repr

/-- What a run of characters is. -/
inductive Lexeme where
  | token (kind : TokenKind)
  | extra (kind : String)
  | gap
  deriving DecidableEq, Repr

/-- The runs of characters that a step takes, the modes after it and what is left. -/
structure Step where
  runs : List (Lexeme × List Char)
  modes : List Mode
  rest : List Char

/-- Characters up to a mark, and what follows the mark. -/
def cutAt (mark : List Char) : List Char → Option (List Char × List Char)
  | [] => none
  | c :: cs =>
    match Text.dropPrefix? mark (c :: cs) with
    | some rest => some ([], rest)
    | none => (cutAt mark cs).map fun p => (c :: p.1, p.2)

/-- A comment to the end of its line. A question mark belongs to it unless code ends there; one at the very end of the
line takes the line end with it. -/
def lineComment : List Char → List Char × List Char
  | [] => ([], [])
  | '?' :: '\n' :: rest => (['?', '\n'], rest)
  | '?' :: '\r' :: '\n' :: rest => (['?', '\r', '\n'], rest)
  | '?' :: c :: rest =>
    if c == '>' || c == '\r' then ([], '?' :: c :: rest)
    else
      let p := lineComment rest
      ('?' :: c :: p.1, p.2)
  | ['?'] => ([], ['?'])
  | c :: rest =>
    if c == '\n' || c == '\r' then ([], c :: rest)
    else
      let p := lineComment rest
      (c :: p.1, p.2)

/-- A comment at the start of a text. -/
def comment? : List Char → Option (List Char × List Char)
  | '/' :: '/' :: rest =>
    let p := lineComment rest
    some ('/' :: '/' :: p.1, p.2)
  | '/' :: '*' :: rest => (cutAt ['*', '/'] rest).map fun p => (['/', '*'] ++ p.1 ++ ['*', '/'], p.2)
  | '#' :: c :: rest =>
    if c == '[' then none
    else if c == '?' || c == '\r' || c == '\n' then some (['#'], c :: rest)
    else
      let p := lineComment rest
      some ('#' :: c :: p.1, p.2)
  | ['#'] => some (['#'], [])
  | _ => none

/-- The tag that starts a passage of code. -/
def tag? (s : List Char) : Option (List Char × List Char) :=
  match s with
  | '<' :: '?' :: rest =>
    match rest with
    | '=' :: more => some (['<', '?', '='], more)
    | p :: h :: q :: more =>
      if (p == 'p' || p == 'P') && (h == 'h' || h == 'H') && (q == 'p' || q == 'P') then
        some (['<', '?', p, h, q], more)
      else some (['<', '?'], rest)
    | _ => some (['<', '?'], rest)
  | _ => none

/-- Plain text up to the next passage of code, the tag of that passage and what follows it. -/
def plainText : List Char → List Char × List Char × List Char
  | [] => ([], [], [])
  | c :: cs =>
    match tag? (c :: cs) with
    | some (tag, rest) => ([], tag, rest)
    | none =>
      let p := plainText cs
      (c :: p.1, p.2)

/-- A text in single quotation marks, after the first mark. -/
def rawText : List Char → Option (List Char × List Char)
  | [] => none
  | '\'' :: rest => some (['\''], rest)
  | '\\' :: c :: rest => (rawText rest).map fun p => ('\\' :: c :: p.1, p.2)
  | c :: rest => (rawText rest).map fun p => (c :: p.1, p.2)

/-- Digits with single underscores between them, at the start of a text; `after` says that an underscore may come first. -/
def digits (isDigit : Char → Bool) (after : Bool) : List Char → List Char
  | '_' :: c :: cs => if after && isDigit c then '_' :: c :: digits isDigit true cs else []
  | c :: cs => if isDigit c then c :: digits isDigit true cs else []
  | [] => []

/-- Is the character a digit of base sixteen? -/
def isHexDigit (c : Char) : Bool := c.isDigit || ('a' ≤ c && c ≤ 'f') || ('A' ≤ c && c ≤ 'F')

/-- A whole number at the start of a text; the sign after a leading zero tells the base. -/
def whole (s : List Char) : List Char :=
  match s with
  | '0' :: b :: rest =>
    let hexDigits := digits isHexDigit false rest
    let binaryDigits := digits (fun c => c == '0' || c == '1') false rest
    let isOctal := fun (c : Char) => '0' ≤ c && c ≤ '7'
    if (b == 'x' || b == 'X') && !hexDigits.isEmpty then '0' :: b :: hexDigits
    else if (b == 'b' || b == 'B') && !binaryDigits.isEmpty then '0' :: b :: binaryDigits
    else if b == 'o' || b == 'O' then '0' :: b :: digits isOctal true rest
    else '0' :: digits isOctal true (b :: rest)
  | _ => digits Char.isDigit false s

/-- The exponent of a number, if there is one. -/
def exponent (s : List Char) : List Char :=
  match s with
  | e :: rest =>
    if e == 'e' || e == 'E' then
      let sign := match rest with
        | c :: _ => if c == '+' || c == '-' then [c] else []
        | [] => []
      let ds := digits Char.isDigit false (rest.drop sign.length)
      if ds.isEmpty then [] else e :: sign ++ ds
    else []
  | [] => []

/-- A number with a point or an exponent at the start of a text, if there is one. -/
def floating (s : List Char) : List Char :=
  let before := digits Char.isDigit true s
  let rest := s.drop before.length
  let point := match rest with
    | '.' :: more => '.' :: digits Char.isDigit true more
    | _ => []
  let exp := exponent (rest.drop point.length)
  if point.isEmpty && exp.isEmpty then [] else before ++ point ++ exp

/-- A number: its kind, its characters and what is left. The longer reading holds. -/
def number (s : List Char) : TokenKind × List Char × List Char :=
  let plain := whole s
  let float := floating s
  if plain.length < float.length then (.float, float, s.drop float.length) else (.integer, plain, s.drop plain.length)

/-- The end of a block of lines: a line end, blanks and the label, not followed by more of a name. -/
def blockEnd? (label s : List Char) : Option (List Char × List Char) :=
  let lineEnd := match s with
    | '\n' :: _ => ['\n']
    | '\r' :: '\n' :: _ => ['\r', '\n']
    | _ => []
  if lineEnd.isEmpty then none else
  let rest := s.drop lineEnd.length
  let blanks := rest.takeWhile fun c => c == ' ' || c == '\t'
  match Text.dropPrefix? label (rest.drop blanks.length) with
  | some after => if (after.head?.map isNamePart).getD false then none else some (lineEnd ++ blanks ++ label, after)
  | none => none

/-- The lines of a block without code in it. -/
def rawBlock (label : List Char) : List Char → Option (List Char × List Char)
  | [] => none
  | c :: cs =>
    match blockEnd? label (c :: cs) with
    | some p => some p
    | none => (rawBlock label cs).map fun p => (c :: p.1, p.2)

/-- Does code start here in a text? -/
def startsCode : List Char → Bool
  | '$' :: c :: _ => c == '\x7b' || isNameStart c
  | '\x7b' :: '$' :: _ => true
  | _ => false

/-- Does the text or block end here? -/
def endsHere (mode : Mode) (s : List Char) : Bool :=
  match mode, s with
  | .quoted mark, c :: _ => c == mark
  | .block label, _ => (blockEnd? label s).isSome
  | _, _ => false

/-- The plain characters of a text up to its end or to code in it. A backslash takes the next character with it, a line
end apart. -/
def plainPiece (mode : Mode) : List Char → List Char × List Char
  | [] => ([], [])
  | '\\' :: c :: rest =>
    if c == '\n' || c == '\r' then
      if startsCode (c :: rest) || endsHere mode (c :: rest) then (['\\'], c :: rest)
      else
        let p := plainPiece mode rest
        ('\\' :: c :: p.1, p.2)
    else
      let p := plainPiece mode rest
      ('\\' :: c :: p.1, p.2)
  | c :: rest =>
    if startsCode (c :: rest) || endsHere mode (c :: rest) then ([], c :: rest)
    else
      let p := plainPiece mode rest
      (c :: p.1, p.2)

/-- A token of one run. -/
def one (kind : TokenKind) (run : List Char) : Lexeme × List Char := (.token kind, run)

/-- A word at the start of a text. -/
def word (s : List Char) : List Char × List Char := (s.takeWhile isNamePart, s.dropWhile isNamePart)

/-- What a subscript in a text holds: a number, a word or a variable. -/
def subscript? (s : List Char) : Option (List (Lexeme × List Char) × List Char) :=
  match s with
  | '$' :: rest =>
    let (w, after) := word rest
    if (rest.head?.map isNameStart).getD false then some ([one .sign ['$'], one .word w], after) else none
  | '-' :: rest =>
    let (w, after) := word rest
    if (rest.head?.map Char.isDigit).getD false then some ([one .sign ['-'], one .integer w], after) else none
  | c :: _ =>
    let (w, after) := word s
    if isNameStart c then some ([one .word w], after)
    else if c.isDigit then some ([one .integer w], after)
    else none
  | [] => none

/-- What may follow a variable in a text: a member or a subscript. -/
def afterVariable (s : List Char) : Option (List (Lexeme × List Char) × List Char) :=
  match s with
  | '-' :: '>' :: c :: cs =>
    if isNameStart c then
      let (w, after) := word (c :: cs)
      some ([one .sign ['-', '>'], one .word w], after)
    else some ([], s)
  | '[' :: rest =>
    match subscript? rest with
    | some (runs, ']' :: after) => some ([one .sign ['[']] ++ runs ++ [one .sign [']']], after)
    | _ => none
  | _ => some ([], s)

/-- A step inside a text or a block. -/
def textStep (mode : Mode) (outer : List Mode) (s : List Char) : Option Step :=
  let closing := match mode, s with
    | .quoted mark, c :: rest => if c == mark then some ([c], rest) else none
    | .block label, _ => blockEnd? label s
    | _, _ => none
  match closing with
  | some (run, rest) => some ⟨[one .closing run], outer, rest⟩
  | none =>
    match s with
    | '$' :: '\x7b' :: rest => some ⟨[one .sign ['$'], one .sign ['\x7b']], .code 0 :: mode :: outer, rest⟩
    | '\x7b' :: '$' :: rest => some ⟨[one .sign ['\x7b']], .code 0 :: mode :: outer, '$' :: rest⟩
    | '$' :: c :: rest =>
      if isNameStart c then
        let (w, after) := word (c :: rest)
        (afterVariable after).map fun p => ⟨[one .sign ['$'], one .word w] ++ p.1, mode :: outer, p.2⟩
      else
        let p := plainPiece mode (c :: rest)
        some ⟨[one .piece ('$' :: p.1)], mode :: outer, p.2⟩
    | c :: rest =>
      let p := plainPiece mode s
      if p.1.isEmpty then some ⟨[one .piece [c]], mode :: outer, rest⟩ else some ⟨[one .piece p.1], mode :: outer, p.2⟩
    | [] => none

/-- The line end after the label of a block, which stays in the text. -/
def atLineEnd : List Char → Bool
  | '\n' :: _ => true
  | '\r' :: '\n' :: _ => true
  | _ => false

/-- The opening of a block of lines, after the three signs. -/
def blockStep (modes : List Mode) (s : List Char) : Option Step :=
  let blanks := s.takeWhile fun c => c == ' ' || c == '\t'
  let head := ['<', '<', '<'] ++ blanks
  match s.drop blanks.length with
  | '\'' :: rest =>
    let (label, after) := word rest
    match after with
    | '\'' :: body =>
      if !label.isEmpty && atLineEnd body then
        (rawBlock label body).map fun p => ⟨[one .rawBlock (head ++ ['\''] ++ label ++ ['\''] ++ p.1)], modes, p.2⟩
      else none
    | _ => none
  | '"' :: rest =>
    let (label, after) := word rest
    match after with
    | '"' :: body =>
      if !label.isEmpty && atLineEnd body then
        some ⟨[one (.opening "heredoc") (head ++ ['"'] ++ label ++ ['"'])], .block label :: modes, body⟩
      else none
    | _ => none
  | rest =>
    let (label, body) := word rest
    if (label.head?.map isNameStart).getD false && atLineEnd body then
      some ⟨[one (.opening "heredoc") (head ++ label)], .block label :: modes, body⟩
    else none

/-- A sign at the start of a text. -/
def sign? (s : List Char) : Option (List Char × List Char) :=
  signs.findSome? fun sign => (Text.dropPrefix? sign s).map fun rest => (sign, rest)

/-- The modes after a sign: braces are counted inside code in a text, and the one that closes it ends the code. -/
def modesAfter (sign : List Char) (modes : List Mode) : List Mode :=
  match modes with
  | .code n :: outer =>
    if sign == ['\x7b'] then .code (n + 1) :: outer
    else if sign == ['\x7d'] then
      match n with
      | 0 => outer
      | m + 1 => .code m :: outer
    else modes
  | _ => modes

/-- The opening of a text in quotation marks. -/
def quoteStep (modes : List Mode) (before : List Char) : List Char → Option Step
  | '\'' :: rest => (rawText rest).map fun p => ⟨[one .text (before ++ ['\''] ++ p.1)], modes, p.2⟩
  | '"' :: rest => some ⟨[one (.opening "encapsed_string") (before ++ ['"'])], .quoted '"' :: modes, rest⟩
  | _ => none

/-- A step in code. -/
def codeStep (modes : List Mode) (s : List Char) : Option Step :=
  match comment? s with
  | some (run, rest) => some ⟨[(.extra "comment", run)], modes, rest⟩
  | none =>
    match s with
    | [] => none
    | '?' :: '>' :: rest =>
      let (text, tag, after) := plainText rest
      some ⟨[one .endTag [], (.extra "text_interpolation", ['?', '>'] ++ text ++ tag)], modes, after⟩
    | '<' :: '<' :: '<' :: rest => blockStep modes rest
    | '\x60' :: rest => some ⟨[one (.opening "shell_command_expression") ['\x60']], .quoted '\x60' :: modes, rest⟩
    | '.' :: c :: rest =>
      if c.isDigit then
        let (kind, run, after) := number s
        some ⟨[one kind run], modes, after⟩
      else (sign? ('.' :: c :: rest)).map fun p => ⟨[one .sign p.1], modes, p.2⟩
    | c :: rest =>
      if isGap c then some ⟨[(.gap, s.takeWhile isGap)], modes, s.dropWhile isGap⟩
      else if c == '\'' || c == '"' then quoteStep modes [] s
      else if (c == 'b' || c == 'B') && (rest.head? == some '\'' || rest.head? == some '"') then
        quoteStep modes [c] rest
      else if isNameStart c then
        let (w, after) := word s
        some ⟨[one .word w], modes, after⟩
      else if c.isDigit then
        let (kind, run, after) := number s
        some ⟨[one kind run], modes, after⟩
      else (sign? s).map fun p => ⟨[one .sign p.1], modesAfter p.1 modes, p.2⟩

/-- One step. -/
def step (modes : List Mode) (s : List Char) : Option Step :=
  match modes with
  | .quoted mark :: outer => textStep (.quoted mark) outer s
  | .block label :: outer => textStep (.block label) outer s
  | modes => codeStep modes s

/-- The tokens and extras found so far, in reverse, the place reached, and where the last of them ended. -/
structure Scan where
  tokens : List Token := []
  extras : List Layout := []
  place : Nat := 0
  ended : Nat := 0

/-- The length of a run in bytes. -/
def byteLength (run : List Char) : Nat := run.foldl (fun n c => n + c.utf8Size) 0

/-- One more run of characters. An end of code stands right after what comes before it. -/
def Scan.push (scan : Scan) (run : Lexeme × List Char) : Scan :=
  let stop := scan.place + byteLength run.2
  match run.1 with
  | .token .endTag => { scan with tokens := ⟨.endTag, "", scan.ended, scan.ended⟩ :: scan.tokens }
  | .token kind =>
    let text := String.ofList run.2
    let key := if kind == .word then text.toLower else text
    { scan with tokens := ⟨kind, key, scan.place, stop⟩ :: scan.tokens, place := stop, ended := stop }
  | .extra kind =>
    let extra := Layout.node kind scan.place stop true false false none []
    { scan with extras := extra :: scan.extras, place := stop, ended := stop }
  | .gap => { scan with place := stop }

/-- The scan of what is left, by at most the given number of steps. -/
def scanCode : Nat → List Mode → List Char → Scan → Option Scan
  | 0, _, _, _ => none
  | _ + 1, modes, [], scan => if modes.isEmpty then some scan else none
  | fuel + 1, modes, s, scan =>
    match step modes s with
    | some next => scanCode fuel next.modes next.rest (next.runs.foldl Scan.push scan)
    | none => none

/-- A source cut into tokens: the plain text before the code, the tag of the code, the tokens and the extras. -/
structure Tokens where
  text : Option Layout
  tag : Option Layout
  tokens : List Token
  extras : List Layout

/-- The tokens of a source, unless a text or comment in it does not end or a character fits nowhere. -/
def tokens (source : String) : Option Tokens :=
  let s := source.toList
  let (text, tag, code) := plainText s
  let leaf := fun (kind : String) (start : Nat) (run : List Char) =>
    if run.isEmpty then none
    else some (Layout.node kind start (start + byteLength run) true false false none [])
  let start := byteLength text + byteLength tag
  (scanCode (code.length + 1) [] code { place := start, ended := start }).map fun scan =>
    { text := leaf "text" 0 text, tag := leaf "php_tag" (byteLength text) tag
      tokens := scan.tokens.reverse, extras := scan.extras.reverse }

end DeadCode.Php.Lexer
