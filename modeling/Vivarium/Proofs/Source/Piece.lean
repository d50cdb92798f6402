import Vivarium.Proofs.Source.Line

/-!
# Lines written token by token

A line that is written as a sequence of words, numbers and symbols with spaces
between them is read as that sequence, if each piece is legible in front of the
others: a word must not be continued by a letter, a number not by a digit or a
point, and an operator not by a character that makes another one of it.

Main definitions:

* `Token.spanning`: the token that covers a text at a place;
* `Legible`: a text in front of another is read as one token;
* `Piece`, `written`, `Piece.tokens`: the pieces of a line, its text, and its tokens.

Main statements:

* `legible_word`, `legible_number`, `legible_mark`, `legible_operator`;
* `tokensFrom_written`: a legible line is read as its pieces.
-/

namespace Vivarium.Source

open Vivarium.Text (isBlank)

/-! ## Tokens that cover a text -/

/-- The token that covers a text at a place. -/
def Token.spanning (kind : Token.Kind) (place : Position) (text : List Char) : Token :=
  ⟨kind, String.ofList text, place.line, place.column, place.offset, text.length⟩

namespace Token

variable (kind : Kind) (place : Position) (text : List Char)

@[simp]
theorem kind_spanning : (spanning kind place text).kind = kind := rfl

@[simp]
theorem text_spanning : (spanning kind place text).text = String.ofList text := rfl

@[simp]
theorem line_spanning : (spanning kind place text).line = place.line := rfl

@[simp]
theorem offset_spanning : (spanning kind place text).offset = place.offset := rfl

/-- The token stops where the text behind it starts. -/
@[simp]
theorem stop_spanning : (spanning kind place text).stop = (place.advance text).offset := by
  rw [stop, Position.advance_offset]
  rfl

variable {kind place text}

/-- Only punctuation is taken for punctuation. -/
theorem isPunctuation_of_kind {t : Token} (other : t.kind ≠ .punctuation) (mark : String) :
    t.isPunctuation mark = false := by
  rw [isPunctuation, is, beq_eq_false_iff_ne.mpr other, Bool.false_and]

theorem isPunctuation_spanning (mark : Char) (place : Position) (text : String) :
    (spanning .punctuation place [mark]).isPunctuation text =
      (String.ofList [mark] == text) := rfl

end Token

/-! ## Legible texts -/

/-- A text in front of another one is read as one token of a kind, wherever it
stands. -/
def Legible (kind : Token.Kind) (text after : List Char) : Prop :=
  ∀ place, tokensFrom place (text ++ after) =
    Token.spanning kind place text :: tokensFrom (place.advance text) after

/-- A text is legible if no gap starts it and its lexeme covers it. -/
theorem Legible.of_lexeme {kind : Token.Kind} {first : Char} {more after : List Char}
    (solid : isBlank first = false) (noComment : first ≠ '/')
    (read : lexeme first (more ++ after) = Lexeme.verbatim kind first more) :
    Legible kind (first :: more) after := by
  intro place
  have noGap : gapLength false (first :: (more ++ after)) = 0 := by
    simp [gapLength, solid, noComment]
  have next : (first :: more ++ after).drop (gapLength false (first :: more ++ after)) =
      first :: (more ++ after) := by
    rw [List.cons_append, noGap, List.drop_zero]
  rw [tokensFrom_eq_cons next, read]
  simp [noGap, Lexeme.verbatim, Lexeme.at, Token.spanning]

/-- The printable characters of the ASCII alphabet are not blank. -/
theorem isBlank_eq_false {c : Char} (least : 33 ≤ c.toNat) (greatest : c.toNat ≤ 126) :
    isBlank c = false := by
  simp only [isBlank, Text.blankRanges, List.any_cons, List.any_nil, Bool.or_false,
    Bool.or_eq_false_iff, Bool.and_eq_false_iff, decide_eq_false_iff_not]
  omega

/-- Digits and letters are not blank, and neither a slash nor a quote. -/
theorem solid_of_range {c : Char} (least : 48 ≤ c.toNat) (greatest : c.toNat ≤ 126) :
    isBlank c = false ∧ c ≠ '/' ∧ c ≠ '"' := by
  refine ⟨isBlank_eq_false (by omega) greatest, ?_, ?_⟩
  · rintro rfl
    exact absurd least (by decide)
  · rintro rfl
    exact absurd least (by decide)

theorem isDigit_iff {c : Char} : c.isDigit = true ↔ 48 ≤ c.toNat ∧ c.toNat ≤ 57 := by
  simp only [Char.isDigit, Bool.and_eq_true, decide_eq_true_eq, ge_iff_le, UInt32.le_iff_toNat_le]
  rfl

theorem isAlpha_iff {c : Char} :
    c.isAlpha = true ↔ 65 ≤ c.toNat ∧ c.toNat ≤ 90 ∨ 97 ≤ c.toNat ∧ c.toNat ≤ 122 := by
  show (decide (c.val ≥ 65 ∧ c.val ≤ 90) || (decide (c.val ≥ 97) && decide (c.val ≤ 122))) =
    true ↔ _
  simp only [Bool.or_eq_true, Bool.and_eq_true, decide_eq_true_eq, ge_iff_le,
    UInt32.le_iff_toNat_le]
  rfl

theorem isWordStart_iff {c : Char} :
    isWordStart c = true ↔
      65 ≤ c.toNat ∧ c.toNat ≤ 90 ∨ 97 ≤ c.toNat ∧ c.toNat ≤ 122 ∨ c.toNat = 95 := by
  have underscore : c = '_' ↔ c.toNat = 95 :=
    ⟨fun same => same ▸ rfl, fun same => Char.toNat_inj.mp same⟩
  rw [isWordStart, Bool.or_eq_true, isAlpha_iff, decide_eq_true_eq, underscore, or_assoc]

/-- A run of members of one class ends in front of a member of another. -/
theorem takeWhile_append_of_stop {α : Type} {p : α → Bool} {run after : List α}
    (inside : ∀ c ∈ run, p c = true) (stops : ∀ c, after.head? = some c → p c = false) :
    (run ++ after).takeWhile p = run ∧ (run ++ after).dropWhile p = after := by
  rw [List.takeWhile_append_of_pos inside, List.dropWhile_append_of_pos inside]
  cases after with
  | nil => exact ⟨List.append_nil run, rfl⟩
  | cons c rest =>
      rw [List.takeWhile_cons, List.dropWhile_cons, stops c rfl]
      exact ⟨List.append_nil run, rfl⟩

/-- The kind of a word. -/
def wordKind (text : String) : Token.Kind :=
  if keywords.contains text then .keyword else .identifier

/-- A word is legible in front of everything that does not continue it. -/
theorem legible_word {text : String} (legal : isIdentifier text = true) {after : List Char}
    (stops : ∀ c, after.head? = some c → isWordPart c = false) :
    Legible (wordKind text) text.toList after := by
  unfold isIdentifier at legal
  cases spelled : text.toList with
  | nil =>
      rw [spelled] at legal
      cases legal
  | cons first more =>
      rw [spelled] at legal
      obtain ⟨starts, parts⟩ := Bool.and_eq_true_iff.mp legal
      have range := isWordStart_iff.mp starts
      obtain ⟨solid, noComment, noQuote⟩ := solid_of_range (c := first) (by omega) (by omega)
      have noDigit : ¬first.isDigit = true := by
        rw [isDigit_iff]
        omega
      have sameText : String.ofList (first :: more) = text := by
        rw [← spelled, String.ofList_toList]
      have run := (takeWhile_append_of_stop (List.all_eq_true.mp parts) stops).1
      refine Legible.of_lexeme solid noComment ?_
      rw [lexeme, if_neg noQuote, if_neg noDigit, if_pos starts, word]
      simp only [run, sameText]
      rfl

/-- An unsigned decimal: digits, and a point with digits behind it if there are any. -/
def decimal (whole fraction : List Char) : List Char :=
  if fraction.isEmpty then whole else whole ++ '.' :: fraction

/-- A number is legible in front of everything but digits and points. -/
theorem legible_number {whole fraction after : List Char} (nonempty : whole ≠ [])
    (wholeDigits : ∀ c ∈ whole, c.isDigit = true)
    (fractionDigits : ∀ c ∈ fraction, c.isDigit = true)
    (stops : ∀ c, after.head? = some c → c.isDigit = false ∧ c ≠ '.') :
    Legible .number (decimal whole fraction) after := by
  obtain ⟨first, more, rfl⟩ := List.exists_cons_of_ne_nil nonempty
  have range := isDigit_iff.mp (wholeDigits first List.mem_cons_self)
  obtain ⟨solid, noComment, noQuote⟩ := solid_of_range range.1 (by omega)
  have moreDigits : ∀ c ∈ more, c.isDigit = true := fun c member =>
    wholeDigits c (List.mem_cons_of_mem _ member)
  -- it is left to show how far the lexer reads behind the first digit
  have number : ∀ tail, numberTail (tail ++ after) = tail →
      Legible .number (first :: tail) after := by
    intro tail covers
    refine Legible.of_lexeme solid noComment ?_
    rw [lexeme, if_neg noQuote, if_pos (isDigit_iff.mpr range), covers]
  cases fraction with
  | nil =>
      refine number more ?_
      have run := takeWhile_append_of_stop moreDigits fun c next => (stops c next).1
      rw [numberTail, run.1, run.2]
      split
      · rename_i d rest
        exact absurd rfl (stops '.' rfl).2
      · rfl
  | cons d rest =>
      refine number (more ++ '.' :: d :: rest) ?_
      -- the point ends the first run of digits, and what follows the number the second
      have dot : ∀ c, ('.' :: d :: (rest ++ after)).head? = some c → c.isDigit = false := by
        rintro c ⟨⟩
        decide
      have run := takeWhile_append_of_stop moreDigits dot
      have restRun := takeWhile_append_of_stop
        (fun c member => fractionDigits c (List.mem_cons_of_mem d member))
        fun c next => (stops c next).1
      rw [numberTail, List.append_assoc, List.cons_append, List.cons_append, run.1, run.2]
      simp only [fractionDigits d List.mem_cons_self, if_true, restRun.1]

/-- Braces, colons and semicolons stand alone, whatever follows them, -/
theorem lexeme_mark {mark : Char} (known : mark ∈ [':', ';', '\x7b', '\x7d'])
    (after : List Char) : lexeme mark after = Lexeme.verbatim .punctuation mark [] := by
  have alone : mark ≠ '"' ∧ ¬mark.isDigit = true ∧ ¬isWordStart mark = true ∧
      mark ∉ oneCharOperators ∧ mark ∉ twoCharOperators.map (·.1) := by
    simp only [List.mem_cons, List.not_mem_nil, or_false] at known
    rcases known with rfl | rfl | rfl | rfl <;> decide
  obtain ⟨noQuote, noDigit, noWord, single, double⟩ := alone
  have noPair : ∀ next, (mark, next) ∉ twoCharOperators := fun next member =>
    double (List.mem_map_of_mem member)
  rw [lexeme, if_neg noQuote, if_neg noDigit, if_neg noWord]
  cases after with
  | nil => simp [symbol, single]
  | cons next rest => simp [symbol, single, noPair next]

/-- and so they are legible in front of everything. -/
theorem legible_mark {mark : Char} (known : mark ∈ [':', ';', '\x7b', '\x7d'])
    (after : List Char) : Legible .punctuation [mark] after := by
  have solid : isBlank mark = false ∧ mark ≠ '/' := by
    simp only [List.mem_cons, List.not_mem_nil, or_false] at known
    rcases known with rfl | rfl | rfl | rfl <;> decide
  exact Legible.of_lexeme solid.1 solid.2 (lexeme_mark known after)

/-- An operator of one character is legible in front of everything that does not make
one of two characters of it. -/
theorem legible_operator {first : Char} (known : first ∈ oneCharOperators)
    (noComment : first ≠ '/') {after : List Char}
    (alone : ∀ c, after.head? = some c → (first, c) ∉ twoCharOperators) :
    Legible .operator [first] after := by
  have symbols : oneCharOperators.all (fun c => !isBlank c && c != '"' && !c.isDigit &&
      !isWordStart c) = true := by decide
  have own := List.all_eq_true.mp symbols first known
  simp only [Bool.and_eq_true, Bool.not_eq_true', bne_iff_ne] at own
  obtain ⟨⟨⟨solid, noQuote⟩, noDigit⟩, noWord⟩ := own
  refine Legible.of_lexeme solid noComment ?_
  rw [lexeme, if_neg noQuote, noDigit, noWord, List.nil_append]
  cases after with
  | nil => simp [symbol, known]
  | cons next rest => simp [symbol, known, alone next rfl]

/-! ## Pieces of a line -/

/-- What a written line consists of: tokens and single spaces. -/
inductive Piece where
  | token (kind : Token.Kind) (text : List Char)
  | space

namespace Piece

/-- The characters of a piece. -/
def text : Piece → List Char
  | token _ text => text
  | space => [' ']

/-- The tokens of pieces that start at a place. -/
def tokens (place : Position) : List Piece → List Token
  | [] => []
  | token kind text :: rest => Token.spanning kind place text :: tokens (place.advance text) rest
  | space :: rest => tokens (place.advance [' ']) rest

end Piece

/-- The text of a line that is written as pieces. -/
def written (pieces : List Piece) : List Char := pieces.flatMap Piece.text

/-- Each token of a line is legible in front of the rest of the line. -/
def LegibleLine : List Piece → Prop
  | [] => True
  | .token kind text :: rest => Legible kind text (written rest) ∧ LegibleLine rest
  | .space :: rest => LegibleLine rest

@[simp]
theorem written_nil : written [] = [] := rfl

@[simp]
theorem written_cons (piece : Piece) (rest : List Piece) :
    written (piece :: rest) = piece.text ++ written rest := List.flatMap_cons

theorem written_append (first second : List Piece) :
    written (first ++ second) = written first ++ written second := List.flatMap_append

theorem Piece.tokens_append (place : Position) (first second : List Piece) :
    tokens place (first ++ second) =
      tokens place first ++ tokens (place.advance (written first)) second := by
  induction first generalizing place with
  | nil => rfl
  | cons piece rest inductionHypothesis =>
      rw [written_cons, Position.advance_append]
      cases piece with
      | token kind text => exact congrArg _ (inductionHypothesis (place.advance text))
      | space => exact inductionHypothesis (place.advance [' '])

/-- Characters without a line break stay on their line. -/
theorem advance_line {text : List Char} (noBreak : '\n' ∉ text) (place : Position) :
    (place.advance text).line = place.line := by
  induction text generalizing place with
  | nil => rfl
  | cons c rest inductionHypothesis =>
      rw [List.mem_cons, not_or] at noBreak
      rw [Position.advance_cons, inductionHypothesis noBreak.2, Position.step,
        if_neg (Ne.symm noBreak.1)]

/-- The tokens of a line all stand on it. -/
theorem Piece.line_tokens {pieces : List Piece} (noBreak : '\n' ∉ written pieces)
    {place : Position} {t : Token} (member : t ∈ tokens place pieces) :
    t.line = place.line := by
  induction pieces generalizing place with
  | nil => cases member
  | cons piece rest inductionHypothesis =>
      rw [written_cons, List.mem_append, not_or] at noBreak
      have onward := advance_line noBreak.1 place
      cases piece with
      | token kind text =>
          rcases List.mem_cons.mp member with rfl | later
          · rfl
          · exact (inductionHypothesis noBreak.2 later).trans onward
      | space => exact (inductionHypothesis noBreak.2 member).trans onward

/-- A legible line is read as its pieces. -/
theorem tokensFrom_written {pieces : List Piece} (legible : LegibleLine pieces)
    (place : Position) : tokensFrom place (written pieces) = Piece.tokens place pieces := by
  induction pieces generalizing place with
  | nil => exact tokensFrom_nil place
  | cons piece rest inductionHypothesis =>
      rw [written_cons]
      cases piece with
      | token kind text =>
          obtain ⟨first, others⟩ := legible
          show tokensFrom place (text ++ written rest) = _
          rw [first place, inductionHypothesis others]
          rfl
      | space =>
          have passes : gapLength false ([' '] ++ written rest) =
              [' '].length + gapLength false (written rest) := by
            have blank : isBlank ' ' = true := by decide
            rw [List.singleton_append, gapLength, if_pos blank, List.length_singleton]
            exact Nat.add_comm _ _
          show tokensFrom place ([' '] ++ written rest) = _
          rw [tokensFrom_gap passes, inductionHypothesis legible]
          rfl

end Vivarium.Source
