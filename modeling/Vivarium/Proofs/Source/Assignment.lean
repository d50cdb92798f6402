import Vivarium.Proofs.Source.Draft
import Vivarium.Proofs.Source.Excerpt

/-!
# Lines that give a value

State variables and settings are written alike: something in front, a literal, and a
semicolon.  Such a line is read as the tokens in front, the tokens of the literal and
the semicolon, all on one line, and the text of the value is the literal again.

Main definitions:

* `reservedPiece`, `markPiece`, `Name.piece`: the pieces that need no context;
* `Literal.pieces`: the tokens of a literal;
* `Literal.assigned`: a line that gives a literal.

Main statements:

* `Literal.tokens_assigned`: the tokens of such a line;
* `Literal.valueText_assigned`: the text of its value.
-/

namespace Vivarium.Source

open Vivarium.Text (isBlank)

/-- The piece of a reserved word. -/
def reservedPiece (text : String) : Piece := .token .keyword text.toList

/-- The piece of a brace, a colon or a semicolon. -/
def markPiece (mark : Char) : Piece := .token .punctuation [mark]

/-- The piece of a name. -/
def Name.piece (n : Name) : Piece := .token .identifier n.text.toList

/-- Behind a character that continues no word a word is over. -/
theorem head_stops {next : Char} (stops : isWordPart next = false) (after : List Char) :
    ∀ c, (next :: after).head? = some c → isWordPart c = false := by
  rintro c ⟨⟩
  exact stops

theorem legible_name (n : Name) {next : Char} (stops : isWordPart next = false)
    (after : List Char) : Legible .identifier n.text.toList (next :: after) := by
  have kind : wordKind n.text = .identifier := by
    rw [wordKind, n.free]
    rfl
  exact kind ▸ legible_word n.legal (head_stops stops after)

theorem legible_reserved {text : String} (reserved : text ∈ keywords) {next : Char}
    (stops : isWordPart next = false) (after : List Char) :
    Legible .keyword text.toList (next :: after) := by
  have legal : ∀ text ∈ keywords, isIdentifier text = true := by decide
  have kind : wordKind text = .keyword := by
    rw [wordKind, List.contains_iff_mem.mpr reserved]
    rfl
  exact kind ▸ legible_word (legal text reserved) (head_stops stops after)

theorem noBreak_of_isIdentifier {text : String} (legal : isIdentifier text = true) :
    '\n' ∉ text.toList := by
  intro member
  unfold isIdentifier at legal
  split at legal
  · cases legal
  · rename_i first rest spelled
    rw [spelled] at member
    rw [Bool.and_eq_true, List.all_eq_true] at legal
    rcases List.mem_cons.mp member with rfl | later
    · exact absurd legal.1 (by decide)
    · exact absurd (legal.2 '\n' later) (by decide)

namespace Literal

/-- The tokens of a literal: its sign is one of its own. -/
def pieces (l : Literal) : List Piece :=
  if l.negative then [.token .operator ['-'], .token .number (decimal l.whole l.fraction)]
  else [.token .number (decimal l.whole l.fraction)]

theorem written_pieces (l : Literal) : written l.pieces = l.chars := by
  rw [pieces, chars]
  split <;> simp [Piece.text]

/-- A literal is legible in front of a semicolon. -/
theorem legibleLine (l : Literal) : LegibleLine (l.pieces ++ [markPiece ';']) := by
  obtain ⟨first, more, spelled, digit⟩ := l.decimal_eq_cons
  have number : Legible .number (decimal l.whole l.fraction) [';'] := by
    refine legible_number l.nonempty l.wholeDigits l.fractionDigits ?_
    rintro c ⟨⟩
    decide
  have mark : LegibleLine [markPiece ';'] := ⟨legible_mark (by decide) [], trivial⟩
  rw [pieces]
  split
  · have behind : written ([.token .number (decimal l.whole l.fraction)] ++ [markPiece ';']) =
        first :: (more ++ [';']) := by
      simp [Piece.text, markPiece, spelled]
    -- only a second minus would make another operator of the sign
    have alone : ('-', first) ∉ twoCharOperators := by
      intro member
      have second : first = '-' := by simpa [twoCharOperators] using member
      rw [second] at digit
      revert digit
      decide
    refine ⟨legible_operator (by decide) (by decide) ?_, number, mark⟩
    show ∀ c, (written ([_] ++ [markPiece ';'])).head? = some c → _
    rw [behind]
    rintro c ⟨⟩
    exact alone
  · exact ⟨number, mark⟩

/-- No character of a literal is blank. -/
theorem solid (l : Literal) : ∀ c ∈ l.chars, isBlank c = false := by
  have digitSolid : ∀ c : Char, c.isDigit = true → isBlank c = false := by
    intro c digit
    have range := isDigit_iff.mp digit
    exact isBlank_eq_false (by omega) (by omega)
  have decimalSolid : ∀ c ∈ decimal l.whole l.fraction, isBlank c = false := by
    intro c member
    rw [decimal] at member
    split at member
    · exact digitSolid c (l.wholeDigits c member)
    · rcases List.mem_append.mp member with inWhole | behind
      · exact digitSolid c (l.wholeDigits c inWhole)
      · rcases List.mem_cons.mp behind with rfl | inFraction
        · decide
        · exact digitSolid c (l.fractionDigits c inFraction)
  intro c member
  rw [chars] at member
  split at member
  · rcases List.mem_cons.mp member with rfl | later
    · decide
    · exact decimalSolid c later
  · exact decimalSolid c member

/-- The text of a value that is written as a literal is the literal. -/
theorem valueText_tokens (l : Literal) {source : List Char} {place : Position}
    (stands : Stands source place l.chars) :
    valueText source (Piece.tokens place l.pieces) = l.text := by
  have excerpt := stands.slice_eq
  rw [trim_of_solid l.solid] at excerpt
  rw [text, ← excerpt]
  cases sign : l.negative with
  | true => simp [pieces, chars, sign, Piece.tokens, valueText]
  | false =>
      rw [excerpt]
      simp [pieces, chars, sign, Piece.tokens, valueText]

/-- A literal has no mark among its tokens. -/
theorem kind_tokens {l : Literal} {place : Position} {t : Token}
    (member : t ∈ Piece.tokens place l.pieces) : t.kind ≠ .punctuation := by
  rw [pieces] at member
  split at member
  · simp only [Piece.tokens, List.mem_cons, List.not_mem_nil, or_false] at member
    rcases member with rfl | rfl <;> exact Token.Kind.noConfusion
  · simp only [Piece.tokens, List.mem_cons, List.not_mem_nil, or_false] at member
    rw [member]
    exact Token.Kind.noConfusion

theorem noBreak (l : Literal) : '\n' ∉ written l.pieces := by
  intro member
  rw [written_pieces] at member
  have blank := l.solid '\n' member
  rw [Text.isBlank_newline] at blank
  cases blank

/-! ## Assignments -/

/-- A line that gives a literal behind what stands in front of it. -/
def assigned (l : Literal) (front : List Piece) : List Piece :=
  front ++ (l.pieces ++ [markPiece ';'])

/-- The tokens of the literal in a line that starts at a place. -/
def valueTokens (l : Literal) (front : List Piece) (place : Position) : List Token :=
  Piece.tokens (place.advance (written front)) l.pieces

/-- The semicolon of a line that starts at a place. -/
def semicolon (l : Literal) (front : List Piece) (place : Position) : Token :=
  Token.spanning .punctuation ((place.advance (written front)).advance (written l.pieces)) [';']

variable {l : Literal} {front : List Piece} {place : Position}

theorem tokens_assigned (l : Literal) (front : List Piece) (place : Position) :
    Piece.tokens place (l.assigned front) =
      Piece.tokens place front ++ (l.valueTokens front place ++ [l.semicolon front place]) := by
  rw [assigned, Piece.tokens_append, Piece.tokens_append]
  rfl

theorem valueTokens_ne_nil (l : Literal) (front : List Piece) (place : Position) :
    l.valueTokens front place ≠ [] := by
  rw [valueTokens, pieces]
  split <;> exact List.cons_ne_nil _ _

/-- The text of the value in a line is the literal. -/
theorem valueText_assigned {source : List Char}
    (stands : Stands source place (written (l.assigned front))) :
    valueText source (l.valueTokens front place) = l.text := by
  rw [assigned, written_append, stands_append, written_append, written_pieces,
    stands_append] at stands
  exact l.valueText_tokens stands.2.1

theorem noBreak_assigned (l : Literal) (inFront : '\n' ∉ written front) :
    '\n' ∉ written (l.assigned front) := by
  have value := l.noBreak
  simp [assigned, written_append, markPiece, Piece.text, inFront, value]

/-- The tokens of a literal stand on the line of what is in front of it. -/
theorem line_valueTokens (inFront : '\n' ∉ written front) {t : Token}
    (member : t ∈ l.valueTokens front place) : t.line = place.line := by
  refine Piece.line_tokens (l.noBreak_assigned inFront) ?_
  rw [tokens_assigned]
  exact List.mem_append_right _ (List.mem_append_left _ member)

/-- A line that gives a literal holds no brace if nothing in front of it is one. -/
theorem plain_assigned (inFront : ∀ t ∈ Piece.tokens place front, t.IsPlain) {t : Token}
    (member : t ∈ Piece.tokens place (l.assigned front)) : t.IsPlain := by
  rw [tokens_assigned] at member
  rcases List.mem_append.mp member with before | behind
  · exact inFront t before
  · rcases List.mem_append.mp behind with inValue | isEnd
    · have noMark := kind_tokens inValue
      exact ⟨Token.isPunctuation_of_kind noMark _, Token.isPunctuation_of_kind noMark _⟩
    · rw [List.mem_singleton.mp isEnd]
      exact ⟨rfl, rfl⟩

end Literal

end Vivarium.Source
