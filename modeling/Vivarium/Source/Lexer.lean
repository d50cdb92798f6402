import Vivarium.Source.Token
import Vivarium.Text.Blank

/-!
# From text to tokens

Reading a text into tokens never fails.  Between two tokens stand blanks and
line comments; a token is the longest lexeme that starts at the next character,
and a character that starts no lexeme is a punctuation token of its own.  A line
break ends every lexeme: a string literal or a comment that is still open stops
in front of it.

Main definitions:

* `gapLength`: the number of characters in front of the next token;
* `Lexeme`, `lexeme`: what starts at a given character, and how far it reaches;
* `tokensFrom`, `tokenize`: the tokens of a text.
-/

namespace Vivarium.Source

open Vivarium.Text (isBlank)

/-- The number of leading characters that belong to blanks and comments.  The
flag tells whether a comment is open; a line break closes it. -/
def gapLength : Bool → List Char → Nat
  | _, [] => 0
  | true, c :: rest => gapLength (c ≠ '\n') rest + 1
  | false, c :: rest =>
      if isBlank c then gapLength false rest + 1
      else if c = '/' && rest.head? = some '/' then gapLength true rest + 1
      else 0

/-- What a character stands for behind a backslash. -/
def unescape (c : Char) : Char :=
  match c with
  | 'n' => '\n'
  | 't' => '\t'
  | c => c

/-- The contents of a string literal behind its opening quote, and the number of
characters up to and including its end.  A line break or the end of the text
ends the literal, also behind a backslash; the break is not part of it. -/
def literal : List Char → List Char × Nat
  | [] => ([], 0)
  | '"' :: _ => ([], 1)
  | '\n' :: _ => ([], 0)
  | ['\\'] => ([], 1)
  | '\\' :: c :: rest =>
      if c = '\n' then ([], 1)
      else
        let (contents, length) := literal rest
        (unescape c :: contents, length + 2)
  | c :: rest =>
      let (contents, length) := literal rest
      (c :: contents, length + 1)

/-- The characters of a number behind its first digit: digits, and then a point
with digits if a digit follows the point. -/
def numberTail (rest : List Char) : List Char :=
  let whole := rest.takeWhile Char.isDigit
  match rest.dropWhile Char.isDigit with
  | '.' :: d :: after =>
      if d.isDigit then whole ++ '.' :: d :: after.takeWhile Char.isDigit else whole
  | _ => whole

/-- What starts at a character: its kind and text, and how many characters it
covers behind the first one. -/
structure Lexeme where
  kind : Token.Kind
  text : List Char
  more : Nat
  deriving Repr, DecidableEq

/-- A lexeme whose text is its span. -/
def Lexeme.verbatim (kind : Token.Kind) (first : Char) (more : List Char) : Lexeme :=
  ⟨kind, first :: more, more.length⟩

/-- The operator or punctuation that starts at a character; two characters are
taken if they form an operator. -/
def symbol (first : Char) (rest : List Char) : Lexeme :=
  match rest with
  | second :: _ =>
      if twoCharOperators.contains (first, second) then
        Lexeme.verbatim .operator first [second]
      else if oneCharOperators.contains first then Lexeme.verbatim .operator first []
      else Lexeme.verbatim .punctuation first []
  | [] =>
      if oneCharOperators.contains first then Lexeme.verbatim .operator first []
      else Lexeme.verbatim .punctuation first []

/-- The word that starts at a character: a keyword if it is a reserved word, and
an identifier otherwise. -/
def word (first : Char) (rest : List Char) : Lexeme :=
  let more := rest.takeWhile isWordPart
  let kind : Token.Kind :=
    if keywords.contains (String.ofList (first :: more)) then .keyword else .identifier
  Lexeme.verbatim kind first more

/-- The lexeme that starts at a character that is not blank. -/
def lexeme (first : Char) (rest : List Char) : Lexeme :=
  if first = '"' then
    let (contents, length) := literal rest
    ⟨.string, contents, length⟩
  else if first.isDigit then Lexeme.verbatim .number first (numberTail rest)
  else if isWordStart first then word first rest
  else symbol first rest

/-- The token that a lexeme makes at a place. -/
def Lexeme.at (lx : Lexeme) (place : Position) : Token :=
  ⟨lx.kind, String.ofList lx.text, place.line, place.column, place.offset, lx.more + 1⟩

/-- The tokens of a text that starts at the given place. -/
def tokensFrom (place : Position) (text : List Char) : List Token :=
  let gap := gapLength false text
  let here := place.advance (text.take gap)
  match _next : text.drop gap with
  | [] => []
  | first :: rest =>
      let lx := lexeme first rest
      lx.at here ::
        tokensFrom (here.advance (first :: rest.take lx.more)) (rest.drop lx.more)
termination_by text.length
decreasing_by
  have shorter : (text.drop (gapLength false text)).length = rest.length + 1 := by
    rw [_next, List.length_cons]
  rw [List.length_drop] at *
  omega

/-- The tokens of a source text. -/
def tokenize (source : String) : List Token := tokensFrom Position.start source.toList

end Vivarium.Source
