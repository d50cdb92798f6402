/-!
# Tokens of an organism source

A source text is a flat sequence of tokens.  Each token knows the characters it
covers: its place in the text by character offset, by line and by column, and
the number of characters it spans.  The text of a string literal is its
contents; every other token has exactly the characters of its span as text.

Main definitions:

* `Position`: a place in a text, advanced character by character;
* `Token.Kind`, `Token`: a token with its place;
* `keywords`, `twoCharOperators`, `oneCharOperators`: the closed word lists.
-/

namespace Vivarium.Source

/-- A place in a text: characters before it, the line counted from one, and the
characters since the last line break. -/
structure Position where
  offset : Nat
  line : Nat
  column : Nat
  deriving Repr, DecidableEq

namespace Position

/-- The place before the first character of a text. -/
def start : Position := ⟨0, 1, 0⟩

/-- The place after one more character.  Only a line feed ends a line. -/
def step (p : Position) (c : Char) : Position :=
  if c = '\n' then ⟨p.offset + 1, p.line + 1, 0⟩ else ⟨p.offset + 1, p.line, p.column + 1⟩

/-- The place after a run of characters. -/
def advance (p : Position) (text : List Char) : Position := text.foldl step p

@[simp]
theorem advance_nil (p : Position) : p.advance [] = p := rfl

@[simp]
theorem advance_cons (p : Position) (c : Char) (rest : List Char) :
    p.advance (c :: rest) = (p.step c).advance rest := rfl

theorem advance_append (p : Position) (first second : List Char) :
    p.advance (first ++ second) = (p.advance first).advance second := by
  simp [advance]

/-- Every character moves the offset by one. -/
theorem advance_offset (p : Position) (text : List Char) :
    (p.advance text).offset = p.offset + text.length := by
  induction text generalizing p with
  | nil => simp
  | cons c rest inductionHypothesis =>
      rw [advance_cons, inductionHypothesis]
      simp only [step, List.length_cons]
      split <;> simp only <;> omega

end Position

namespace Token

/-- The kinds of token.  Whatever no other kind claims is punctuation. -/
inductive Kind where
  | keyword
  | identifier
  | number
  | string
  | operator
  | punctuation
  deriving Repr, DecidableEq

/-- The name under which a kind is shown. -/
def Kind.name : Kind → String
  | .keyword => "Keyword"
  | .identifier => "Identifier"
  | .number => "Number"
  | .string => "String"
  | .operator => "Operator"
  | .punctuation => "Punctuation"

/-- All kinds, in the order of their declaration. -/
def Kind.all : List Kind :=
  [.keyword, .identifier, .number, .string, .operator, .punctuation]

end Token

/-- A token with the characters it covers. -/
structure Token where
  kind : Token.Kind
  text : String
  line : Nat
  column : Nat
  offset : Nat
  length : Nat
  deriving Repr, DecidableEq

namespace Token

/-- The offset just behind the last character of the token. -/
def stop (t : Token) : Nat := t.offset + t.length

/-- The token is of the given kind and has the given text. -/
def is (t : Token) (kind : Kind) (text : String) : Bool := t.kind == kind && t.text == text

/-- The token is the given keyword. -/
def isKeyword (t : Token) (word : String) : Bool := t.is .keyword word

/-- The token is the given punctuation. -/
def isPunctuation (t : Token) (text : String) : Bool := t.is .punctuation text

/-- The token opens a block. -/
def opensBlock (t : Token) : Bool := t.isPunctuation "\x7b"

/-- The token closes a block. -/
def closesBlock (t : Token) : Bool := t.isPunctuation "\x7d"

/-- The token is a word: an identifier or a keyword. -/
def isWord (t : Token) : Bool := t.kind == .identifier || t.kind == .keyword

end Token

/-- The reserved words. -/
def keywords : List String :=
  ["organism", "state", "gene", "workflow", "evolution", "fitness_goal", "if", "else",
   "while", "for", "return", "let", "true", "false", "True", "False"]

/-- The operators of two characters.  They take precedence over those of one. -/
def twoCharOperators : List (Char × Char) :=
  [('=', '='), ('!', '='), ('<', '='), ('>', '='), ('&', '&'), ('|', '|'), ('+', '+'),
   ('-', '-')]

/-- The operators of one character. -/
def oneCharOperators : List Char :=
  ['+', '-', '*', '/', '%', '=', '<', '>', '!', '&', '|']

/-- A letter of the ASCII alphabet or an underscore. -/
def isWordStart (c : Char) : Bool := c.isAlpha || c = '_'

/-- A character that may continue an identifier. -/
def isWordPart (c : Char) : Bool := c.isAlphanum || c = '_'

/-- A legal identifier: a letter or underscore, then letters, digits and
underscores. -/
def isIdentifier (text : String) : Bool :=
  match text.toList with
  | [] => false
  | first :: rest => isWordStart first && rest.all isWordPart

end Vivarium.Source
