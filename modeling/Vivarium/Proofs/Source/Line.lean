import Vivarium.Source.Lexer

/-!
# Reading line by line

A line break is a blank, it closes a comment, and it ends every lexeme in front of
it.  So the tokens of a text are those in front of a line break and those behind
it, and a text that ends with a line break can be read without what follows.

Main definitions:

* `EndsLexeme`: the characters that end words, numbers and operators;
* `unlines`: lines with a line break behind each;
* `Token.shape`: the kind and the text of a token, without its place.

Main statements:

* `lexeme_append_stop`, `lexeme_append_newline`: no lexeme reaches across a line break, and
  none but a literal across a character that ends it;
* `tokensFrom_append_newline`: the tokens in front of a line break and behind it;
* `tokensFrom_unlines_append`: the tokens of lines followed by other lines;
* `shapes_tokensFrom`: where a text stands does not matter for the shapes.
-/

namespace Vivarium.Source

open Vivarium.Text (isBlank)

/-! ## What ends a lexeme -/

theorem takeWhile_append_stop {p : Char → Bool} {stop : Char} (stops : p stop = false)
    (text after : List Char) :
    (text ++ stop :: after).takeWhile p = text.takeWhile p := by
  induction text with
  | nil => rw [List.nil_append, List.takeWhile_cons, stops]; rfl
  | cons c rest inductionHypothesis =>
      rw [List.cons_append, List.takeWhile_cons, List.takeWhile_cons, inductionHypothesis]

theorem dropWhile_append_stop {p : Char → Bool} {stop : Char} (stops : p stop = false)
    (text after : List Char) :
    (text ++ stop :: after).dropWhile p = text.dropWhile p ++ stop :: after := by
  induction text with
  | nil => rw [List.nil_append, List.dropWhile_cons, stops]; rfl
  | cons c rest inductionHypothesis =>
      rw [List.cons_append, List.dropWhile_cons, List.dropWhile_cons, inductionHypothesis]
      split <;> rfl

/-- No word, number or operator goes on with the character. -/
structure EndsLexeme (c : Char) : Prop where
  noWord : isWordPart c = false
  noDigit : c.isDigit = false
  noPoint : c ≠ '.'
  noPair : ∀ first, (first, c) ∉ twoCharOperators

theorem endsLexeme_newline : EndsLexeme '\n' where
  noWord := by decide
  noDigit := by decide
  noPoint := by decide
  noPair first := by simp [twoCharOperators]

section Stop

variable {stop : Char} (ends : EndsLexeme stop)

include ends

theorem numberTail_append_stop (rest after : List Char) :
    numberTail (rest ++ stop :: after) = numberTail rest := by
  simp only [numberTail, takeWhile_append_stop ends.noDigit, dropWhile_append_stop ends.noDigit]
  cases rest.dropWhile Char.isDigit with
  | nil => simp [ends.noPoint]
  | cons c others =>
      by_cases point : c = '.'
      · subst point
        cases others with
        | nil => simp [ends.noDigit]
        | cons d others =>
            simp only [List.cons_append, takeWhile_append_stop ends.noDigit]
      · simp [point]

theorem symbol_append_stop (first : Char) (rest after : List Char) :
    symbol first (rest ++ stop :: after) = symbol first rest := by
  cases rest with
  | nil => simp [symbol, ends.noPair first]
  | cons second rest => rfl

/-- No lexeme but a string literal reaches across a character that ends it. -/
theorem lexeme_append_stop {first : Char} (noQuote : first ≠ '"') (rest after : List Char) :
    lexeme first (rest ++ stop :: after) = lexeme first rest := by
  simp only [lexeme, if_neg noQuote, word, numberTail_append_stop ends, symbol_append_stop ends,
    takeWhile_append_stop ends.noWord]

end Stop

/-! ## What starts in front of a line break -/

/-- A gap that fills a line goes on behind the line break, where no comment is open;
any other gap ends where it ends without what follows the line. -/
theorem gapLength_append_newline (comment : Bool) (text after : List Char) :
    gapLength comment (text ++ '\n' :: after) =
      if gapLength comment text = text.length then text.length + 1 + gapLength false after
      else gapLength comment text := by
  fun_induction gapLength comment text with
  | case1 comment =>
      have atBreak : gapLength comment ('\n' :: after) = gapLength false after + 1 := by
        cases comment <;> simp [gapLength]
      rw [List.nil_append, atBreak, if_pos List.length_nil.symm, List.length_nil]
      omega
  | case2 c rest inductionHypothesis =>
      rw [List.cons_append, gapLength, inductionHypothesis, List.length_cons]
      split <;> split <;> omega
  | case3 c rest blank inductionHypothesis =>
      rw [List.cons_append, gapLength, if_pos blank, inductionHypothesis, List.length_cons]
      split <;> split <;> omega
  | case4 c rest notBlank opens inductionHypothesis =>
      -- the second slash stands in the line as well
      have stillOpens : (decide (c = '/') && decide ((rest ++ '\n' :: after).head? = some '/'))
          = true := by
        cases rest with
        | nil => simp at opens
        | cons second rest => exact opens
      rw [List.cons_append, gapLength, if_neg notBlank, if_pos stillOpens, inductionHypothesis,
        List.length_cons]
      split <;> split <;> omega
  | case5 c rest notBlank opensNot =>
      -- a line break is no second slash
      have stillNot : ¬(decide (c = '/') && decide ((rest ++ '\n' :: after).head? = some '/'))
          = true := by
        cases rest with
        | nil => simp
        | cons second rest => exact opensNot
      rw [List.cons_append, gapLength, if_neg notBlank, if_neg stillNot, List.length_cons]
      rfl

theorem gapLength_le (comment : Bool) (text : List Char) :
    gapLength comment text ≤ text.length := by
  fun_induction gapLength comment text <;> simp_all

theorem literal_cons {c : Char} (noQuote : c ≠ '"') (noBreak : c ≠ '\n')
    (noEscape : c ≠ '\\') (rest : List Char) :
    literal (c :: rest) = (c :: (literal rest).1, (literal rest).2 + 1) := by
  rw [literal] <;> simp_all

/-- A character of a literal that starts no escape, at the end of the text or before another one,
is no backslash. -/
theorem ne_backslash {c : Char} {rest : List Char} (endsNot : c = '\\' → rest = [] → False)
    (escapesNot : ∀ second others, c = '\\' → rest = second :: others → False) : c ≠ '\\' := by
  intro escape
  cases rest with
  | nil => exact endsNot escape rfl
  | cons second others => exact escapesNot second others escape rfl

theorem literal_append_newline (text after : List Char) :
    literal (text ++ '\n' :: after) = literal text := by
  fun_induction literal text with
  | case7 c rest noQuote noBreak endsNot escapesNot contents length read inductionHypothesis =>
      rw [List.cons_append, literal_cons noQuote noBreak (ne_backslash endsNot escapesNot),
        inductionHypothesis, read]
  | _ => simp_all [literal]

theorem literal_length_le (text : List Char) : (literal text).2 ≤ text.length := by
  fun_induction literal text <;> simp_all

theorem numberTail_length_le (rest : List Char) : (numberTail rest).length ≤ rest.length := by
  have whole : (rest.takeWhile Char.isDigit).length + (rest.dropWhile Char.isDigit).length =
      rest.length := by
    rw [← List.length_append, List.takeWhile_append_dropWhile]
  unfold numberTail
  split
  · rename_i d after behind
    have fraction := (List.takeWhile_prefix Char.isDigit (l := after)).length_le
    rw [behind] at whole
    simp only [List.length_cons] at whole
    simp only
    split
    · rw [List.length_append, List.length_cons, List.length_cons]
      omega
    · omega
  · simp only
    omega

/-- No lexeme reaches across a line break. -/
theorem lexeme_append_newline (first : Char) (rest after : List Char) :
    lexeme first (rest ++ '\n' :: after) = lexeme first rest := by
  by_cases quote : first = '"'
  · simp only [lexeme, if_pos quote, literal_append_newline]
  · exact lexeme_append_stop endsLexeme_newline quote rest after

/-- A lexeme covers only characters that are there. -/
theorem lexeme_more_le (first : Char) (rest : List Char) :
    (lexeme first rest).more ≤ rest.length := by
  unfold lexeme
  split
  · exact literal_length_le rest
  · split
    · exact numberTail_length_le rest
    · split
      · exact (List.takeWhile_prefix isWordPart).length_le
      · unfold symbol Lexeme.verbatim
        repeat' split
        all_goals simp

/-! ## The tokens of lines -/

theorem tokensFrom_eq_nil {place : Position} {text : List Char}
    (nothing : text.drop (gapLength false text) = []) : tokensFrom place text = [] := by
  rw [tokensFrom]
  dsimp only
  split
  · rfl
  · rename_i something
    rw [nothing] at something
    cases something

theorem tokensFrom_eq_cons {place : Position} {text : List Char} {first : Char}
    {rest : List Char} (next : text.drop (gapLength false text) = first :: rest) :
    tokensFrom place text =
      (lexeme first rest).at (place.advance (text.take (gapLength false text))) ::
        tokensFrom ((place.advance (text.take (gapLength false text))).advance
            (first :: rest.take (lexeme first rest).more))
          (rest.drop (lexeme first rest).more) := by
  rw [tokensFrom]
  dsimp only
  split
  · rename_i nothing
    rw [nothing] at next
    cases next
  · rename_i next'
    obtain ⟨rfl, rfl⟩ := List.cons.inj (next'.symm.trans next)
    rfl

@[simp]
theorem tokensFrom_nil (place : Position) : tokensFrom place [] = [] := tokensFrom_eq_nil rfl

/-- Characters that belong to the gap in front of the next token can be passed by. -/
theorem tokensFrom_gap {gap rest : List Char}
    (passes : gapLength false (gap ++ rest) = gap.length + gapLength false rest)
    (place : Position) :
    tokensFrom place (gap ++ rest) = tokensFrom (place.advance gap) rest := by
  have behind : (gap ++ rest).drop (gapLength false (gap ++ rest)) =
      rest.drop (gapLength false rest) := by
    rw [passes, List.drop_length_add_append]
  have inFront : place.advance ((gap ++ rest).take (gapLength false (gap ++ rest))) =
      (place.advance gap).advance (rest.take (gapLength false rest)) := by
    rw [passes, List.take_length_add_append, Position.advance_append]
  cases next : rest.drop (gapLength false rest) with
  | nil => rw [tokensFrom_eq_nil next, tokensFrom_eq_nil (behind.trans next)]
  | cons first others =>
      rw [tokensFrom_eq_cons next, tokensFrom_eq_cons (behind.trans next), inFront]

/-- The tokens of a text with a line break are those in front of the break and those
behind it. -/
theorem tokensFrom_append_newline (place : Position) (text after : List Char) :
    tokensFrom place (text ++ '\n' :: after) =
      tokensFrom place text ++ tokensFrom (place.advance (text ++ ['\n'])) after := by
  induction place, text using tokensFrom.induct with
  | case1 place text gap nothing =>
      -- nothing is left of the line, so that its gap reaches over the break
      have fills : gapLength false text = text.length :=
        Nat.le_antisymm (gapLength_le false text) (List.drop_eq_nil_iff.mp nothing)
      rw [tokensFrom_eq_nil nothing, List.nil_append, ← tokensFrom_gap, List.append_assoc,
        List.singleton_append]
      rw [List.append_assoc, List.singleton_append, gapLength_append_newline, if_pos fills,
        List.length_append, List.length_singleton]
  | case2 place text gap here first rest next lx inductionHypothesis =>
      have ends : gapLength false text < text.length := by
        have someLeft := congrArg List.length next
        rw [List.length_drop, List.length_cons] at someLeft
        omega
      have sameGap : gapLength false (text ++ '\n' :: after) = gapLength false text := by
        rw [gapLength_append_newline, if_neg (Nat.ne_of_lt ends)]
      have sameNext : (text ++ '\n' :: after).drop (gapLength false (text ++ '\n' :: after)) =
          first :: (rest ++ '\n' :: after) := by
        rw [sameGap, List.drop_append_of_le_length (Nat.le_of_lt ends)]
        show text.drop gap ++ _ = _
        rw [next, List.cons_append]
      have covered := lexeme_more_le first rest
      -- gap, lexeme and what follows it make up the text in front of the break
      have sameEnd : ((place.advance (text.take gap)).advance (first :: rest.take lx.more)).advance
          (rest.drop lx.more ++ ['\n']) = place.advance (text ++ ['\n']) := by
        rw [← Position.advance_append, ← Position.advance_append, List.cons_append,
          ← List.append_assoc (rest.take lx.more), List.take_append_drop, ← List.cons_append,
          ← next, ← List.append_assoc, List.take_append_drop]
      rw [tokensFrom_eq_cons next, tokensFrom_eq_cons sameNext, sameGap,
        lexeme_append_newline, List.take_append_of_le_length (Nat.le_of_lt ends),
        List.take_append_of_le_length covered, List.drop_append_of_le_length covered,
        inductionHypothesis, sameEnd, List.cons_append]

/-- Lines with a line break behind each. -/
def unlines (lines : List (List Char)) : List Char := lines.flatMap (· ++ ['\n'])

@[simp]
theorem unlines_nil : unlines [] = [] := rfl

theorem unlines_cons (line : List Char) (others : List (List Char)) :
    unlines (line :: others) = line ++ '\n' :: unlines others := by
  rw [unlines, List.flatMap_cons, List.append_assoc, List.singleton_append, unlines]

theorem unlines_append (first second : List (List Char)) :
    unlines (first ++ second) = unlines first ++ unlines second := List.flatMap_append

theorem tokensFrom_unlines_cons (place : Position) (line : List Char)
    (others : List (List Char)) :
    tokensFrom place (unlines (line :: others)) =
      tokensFrom place line ++ tokensFrom (place.advance (line ++ ['\n'])) (unlines others) := by
  rw [unlines_cons, tokensFrom_append_newline]

/-- The tokens of lines do not depend on the lines behind them. -/
theorem tokensFrom_unlines_append (place : Position) (first second : List (List Char)) :
    tokensFrom place (unlines (first ++ second)) =
      tokensFrom place (unlines first) ++
        tokensFrom (place.advance (unlines first)) (unlines second) := by
  induction first generalizing place with
  | nil => rw [List.nil_append, unlines_nil, tokensFrom_nil, List.nil_append,
      Position.advance_nil]
  | cons line others inductionHypothesis =>
      rw [List.cons_append, tokensFrom_unlines_cons, tokensFrom_unlines_cons,
        inductionHypothesis, ← Position.advance_append, List.append_assoc, unlines_cons,
        List.append_assoc, List.singleton_append]

/-! ## Shapes -/

/-- What a token is without its place: its kind and its text. -/
def Token.shape (t : Token) : Token.Kind × String := (t.kind, t.text)

/-- The shapes of tokens do not depend on where their text starts. -/
theorem shapes_tokensFrom (place other : Position) (text : List Char) :
    (tokensFrom place text).map Token.shape = (tokensFrom other text).map Token.shape := by
  induction place, text using tokensFrom.induct generalizing other with
  | case1 place text gap nothing =>
      rw [tokensFrom_eq_nil nothing, tokensFrom_eq_nil nothing]
  | case2 place text gap here first rest next lx inductionHypothesis =>
      rw [tokensFrom_eq_cons next, tokensFrom_eq_cons next, List.map_cons, List.map_cons]
      exact congrArg _ (inductionHypothesis _)

end Vivarium.Source
