import DeadCode.Text.Case

/-!
# Patterns for names and paths

A pattern is a list of tokens. `rests` says what is left of a text after a token took its piece, for every piece it can
take; a text matches if the tokens one after the other can take all of it. A line end at the very end may be left over.
-/

namespace DeadCode.Glob
set_option autoImplicit false

/-- A part of a pattern. -/
inductive Token where
  | anyText
  | anyName
  | directories
  | anyChar
  | nameChar
  | letter (c : Char)
  | exact (c : Char)
  deriving DecidableEq, Repr

/-- A text and what is left of it after one, two and more characters that pass the test. -/
def runs (p : Char → Bool) : List Char → List (List Char)
  | [] => [[]]
  | c :: cs => (c :: cs) :: (if p c then runs p cs else [])

/-- What is left of a text after each slash on its first line. -/
def afterSlashes : List Char → List (List Char)
  | [] => []
  | c :: cs => if c == '\n' then [] else if c == '/' then cs :: afterSlashes cs else afterSlashes cs

/-- What is left of a text after one character that passes the test. -/
def single (p : Char → Bool) : List Char → List (List Char)
  | [] => []
  | c :: cs => if p c then [cs] else []

/-- What is left of a text after the piece of a token. Only pieces of names cross line ends. -/
def rests : Token → List Char → List (List Char)
  | .anyText, s => runs (· != '\n') s
  | .anyName, s => runs (· != '/') s
  | .directories, s => s :: afterSlashes s
  | .anyChar, s => single (· != '\n') s
  | .nameChar, s => single (· != '/') s
  | .letter p, s => single (Text.sameLetter p) s
  | .exact p, s => single (· == p) s

/-- Do the tokens take the whole text? -/
def accepts : List Token → List Char → Bool
  | [], s => s.isEmpty || s == ['\n']
  | t :: ts, s => (rests t s).any (accepts ts)

/-- The tokens of a pattern for names: a star is any text, a question mark any character. -/
def symbolTokens (pattern : String) : List Token :=
  pattern.toList.map fun c => if c == '*' then .anyText else if c == '?' then .anyChar else .letter c

/-- The tokens of a pattern for paths: two stars cross directories, a single one does not. -/
def pathTokensOf : List Char → List Token
  | '*' :: '*' :: '/' :: cs => .directories :: pathTokensOf cs
  | '*' :: '*' :: cs => .anyText :: pathTokensOf cs
  | '*' :: cs => .anyName :: pathTokensOf cs
  | '?' :: cs => .nameChar :: pathTokensOf cs
  | c :: cs => .exact c :: pathTokensOf cs
  | [] => []

/-- The text with slashes for backslashes. -/
def withSlashes (s : String) : List Char := s.toList.map fun c => if c == '\\' then '/' else c

/-- The tokens of a written pattern for paths, without a leading mark of the directory at hand. -/
def pathTokens (pattern : String) : List Token :=
  match withSlashes pattern with
  | '.' :: '/' :: cs => pathTokensOf cs
  | cs => pathTokensOf cs

/-- Does one of the patterns match the name? Letters match in both cases. -/
def matchesSymbol (name : String) (patterns : List String) : Bool :=
  patterns.any fun p => accepts (symbolTokens p) name.toList

/-- Does one of the patterns match the path? -/
def matchesPath (path : String) (patterns : List String) : Bool :=
  patterns.any fun p => accepts (pathTokens p) (withSlashes path)

end DeadCode.Glob
