import Vivarium.Proofs.Source.Line

/-!
# Scans

A scan goes through a text once.  It passes by a gap, covers the lexeme that starts
behind the gap, and goes on behind the lexeme, until a gap reaches to the end of the
text.  So a text is a sequence of gaps and lexemes, and each token is the lexeme
that starts at its place.  What holds of all tokens of a text is shown by induction
over its scan.

Where a text stands only moves its tokens: by the characters and by the line breaks
in front of the text.

Main definitions:

* `Position.moved`, `Token.moved`: the same place and token behind another text;
* `Token.span`: the characters that a token covers;
* `Scan`: a text as a sequence of gaps and lexemes, with its tokens.

Main statements:

* `scan_tokensFrom`: the tokens of a text are those of a scan;
* `Scan.lexeme_of_mem`: each token is the lexeme that starts at its place;
* `Scan.ascending`, `Scan.placed`: no token starts before the one in front of it stops, and each
  stands at a later place;
* `tokensFrom_moved`: where a text stands only moves its tokens.
-/

namespace Vivarium.Source

open Vivarium.Text (isBlank)

/-! ## Places -/

namespace Position

/-- The place behind so many more characters and line breaks.  The column stays, as if
the last of the characters were a line break. -/
def moved (chars breaks : Nat) (p : Position) : Position :=
  ⟨chars + p.offset, breaks + p.line, p.column⟩

theorem advance_moved (chars breaks : Nat) (p : Position) (text : List Char) :
    (p.moved chars breaks).advance text = (p.advance text).moved chars breaks := by
  induction text generalizing p with
  | nil => rfl
  | cons c rest inductionHypothesis =>
      have step : (p.moved chars breaks).step c = (p.step c).moved chars breaks := by
        unfold Position.step
        split <;> rfl
      rw [advance_cons, advance_cons, step, inductionHypothesis]

/-- The line is counted by the line breaks on the way. -/
theorem line_advance (p : Position) (text : List Char) :
    (p.advance text).line = p.line + text.count '\n' := by
  induction text generalizing p with
  | nil => rfl
  | cons c rest inductionHypothesis =>
      rw [advance_cons, inductionHypothesis, step, List.count_cons]
      by_cases ends : c = '\n'
      · rw [if_pos ends, if_pos (beq_iff_eq.mpr ends)]
        show p.line + 1 + rest.count '\n' = p.line + (rest.count '\n' + 1)
        omega
      · rw [if_neg ends, if_neg (mt beq_iff_eq.mp ends)]
        rfl

/-- The column is counted by the characters behind the last line break. -/
theorem column_advance_start (text : List Char) :
    (start.advance text).column = (text.reverse.takeWhile (· ≠ '\n')).length := by
  -- the last character decides, so that the induction is on the text read backwards
  have backwards : ∀ text : List Char,
      (start.advance text.reverse).column = (text.takeWhile (· ≠ '\n')).length := by
    intro text
    induction text with
    | nil => rfl
    | cons c rest inductionHypothesis =>
        rw [List.reverse_cons, advance_append, advance_cons, advance_nil, step,
          List.takeWhile_cons]
        by_cases ends : c = '\n'
        · rw [if_pos ends, if_neg (by simpa using ends)]
          rfl
        · rw [if_neg ends, if_pos (by simpa using ends), List.length_cons, ← inductionHypothesis]
  have whole := backwards text.reverse
  rw [List.reverse_reverse] at whole
  exact whole

/-- The place comes before another one: on a line in front, or in front on the same line. -/
def Before (p q : Position) : Prop := p.line < q.line ∨ p.line = q.line ∧ p.column < q.column

theorem Before.trans {p q r : Position} (first : p.Before q) (second : q.Before r) :
    p.Before r := by
  unfold Before at *
  omega

theorem before_step (p : Position) (c : Char) : p.Before (p.step c) := by
  unfold step
  split
  · exact Or.inl (Nat.lt_succ_self p.line)
  · exact Or.inr ⟨rfl, Nat.lt_succ_self p.column⟩

/-- Every character leads to a later place. -/
theorem before_advance (p : Position) (c : Char) (rest : List Char) :
    p.Before (p.advance (c :: rest)) := by
  induction rest generalizing p c with
  | nil => exact p.before_step c
  | cons next rest inductionHypothesis =>
      exact (p.before_step c).trans (inductionHypothesis (p.step c) next)

/-- Behind a line break a line starts, and nothing is left of the place but its
offset and its line. -/
theorem advance_newline (p : Position) (text : List Char) :
    p.advance (text ++ ['\n']) =
      start.moved (p.offset + text.length + 1) (p.line + text.count '\n') := by
  have offset := p.advance_offset text
  have line := p.line_advance text
  rw [advance_append, advance_cons, advance_nil, step, if_pos rfl, offset, line]
  rfl

end Position

/-- The same token behind so many more characters and line breaks. -/
def Token.moved (chars breaks : Nat) (t : Token) : Token :=
  { t with offset := chars + t.offset, line := breaks + t.line }

/-- The characters of a text that a token covers. -/
def Token.span (t : Token) (text : List Char) : List Char := (text.drop t.offset).take t.length

/-- The token of a lexeme covers its first character and as many more as the lexeme
says. -/
theorem Lexeme.span_at (lx : Lexeme) (before : List Char) (first : Char) (rest : List Char) :
    (lx.at (Position.start.advance before)).span (before ++ first :: rest) =
      first :: rest.take lx.more := by
  have offset : (Position.start.advance before).offset = before.length :=
    (Position.advance_offset _ _).trans (Nat.zero_add _)
  show ((before ++ first :: rest).drop (Position.start.advance before).offset).take
    (lx.more + 1) = _
  rw [offset, List.drop_left, List.take_succ_cons]

/-- Where a text stands only moves its tokens. -/
theorem tokensFrom_moved (chars breaks : Nat) (place : Position) (text : List Char) :
    tokensFrom (place.moved chars breaks) text =
      (tokensFrom place text).map (Token.moved chars breaks) := by
  induction place, text using tokensFrom.induct with
  | case1 place text gap nothing =>
      rw [tokensFrom_eq_nil nothing, tokensFrom_eq_nil nothing, List.map_nil]
  | case2 place text gap here first rest next lx inductionHypothesis =>
      rw [tokensFrom_eq_cons next, tokensFrom_eq_cons next, Position.advance_moved,
        Position.advance_moved, inductionHypothesis, List.map_cons]
      rfl

/-! ## Gaps and lexemes -/

/-- Behind a gap no gap starts. -/
theorem gapLength_drop (comment : Bool) (text : List Char) :
    gapLength false (text.drop (gapLength comment text)) = 0 := by
  fun_induction gapLength comment text with
  | case1 => rfl
  | case2 c rest inductionHypothesis => exact inductionHypothesis
  | case3 c rest blank inductionHypothesis => exact inductionHypothesis
  | case4 c rest notBlank opens inductionHypothesis => exact inductionHypothesis
  | case5 c rest notBlank opensNot =>
      rw [List.drop_zero, gapLength, if_neg notBlank, if_neg opensNot]

/-- A text as a sequence of gaps and lexemes, and the tokens of the lexemes.  In front
of a lexeme there is as much of a gap as there can be. -/
inductive Scan : Position → List Char → List Token → Prop where
  | done {place : Position} {gap : List Char} (fills : gapLength false gap = gap.length) :
      Scan place gap []
  | token {place : Position} {gap more rest : List Char} {first : Char} {tokens : List Token}
      (passes : gapLength false (gap ++ first :: (more ++ rest)) = gap.length)
      (starts : gapLength false (first :: (more ++ rest)) = 0)
      (covers : (lexeme first (more ++ rest)).more = more.length)
      (others : Scan (place.advance (gap ++ first :: more)) rest tokens) :
      Scan place (gap ++ first :: (more ++ rest))
        ((lexeme first (more ++ rest)).at (place.advance gap) :: tokens)

/-- The tokens of a text are those of a scan. -/
theorem scan_tokensFrom (place : Position) (text : List Char) :
    Scan place text (tokensFrom place text) := by
  induction place, text using tokensFrom.induct with
  | case1 place text gap nothing =>
      rw [tokensFrom_eq_nil nothing]
      exact Scan.done (Nat.le_antisymm (gapLength_le false text) (List.drop_eq_nil_iff.mp nothing))
  | case2 place text gap here first rest next lx inductionHypothesis =>
      have divided : text.take gap ++ first :: (rest.take lx.more ++ rest.drop lx.more) = text := by
        rw [List.take_append_drop, ← next, List.take_append_drop]
      have inFront : (text.take gap).length = gap :=
        List.length_take_of_le (gapLength_le false text)
      have covered : (rest.take lx.more).length = lx.more :=
        List.length_take_of_le (lexeme_more_le first rest)
      have behind : here.advance (first :: rest.take lx.more) =
          place.advance (text.take gap ++ first :: rest.take lx.more) :=
        (place.advance_append _ _).symm
      rw [behind] at inductionHypothesis
      have scan : Scan place
          (text.take gap ++ first :: (rest.take lx.more ++ rest.drop lx.more)) _ :=
        Scan.token (by rw [divided, inFront])
          (by rw [List.take_append_drop, ← next]; exact gapLength_drop false text)
          (by rw [List.take_append_drop, covered]) inductionHypothesis
      rw [divided, List.take_append_drop] at scan
      rw [tokensFrom_eq_cons next, ← Position.advance_append]
      exact scan

namespace Scan

variable {place : Position} {text : List Char} {tokens : List Token}

/-- Each token is the lexeme that starts at its place, where no gap starts. -/
theorem lexeme_of_mem (scan : Scan place text tokens) {t : Token} (member : t ∈ tokens) :
    ∃ before first rest, text = before ++ first :: rest ∧
      gapLength false (first :: rest) = 0 ∧ t = (lexeme first rest).at (place.advance before) := by
  induction scan with
  | done fills => cases member
  | @token place gap more rest first tokens passes starts covers others inductionHypothesis =>
      rcases List.mem_cons.mp member with rfl | later
      · exact ⟨gap, first, more ++ rest, rfl, starts, rfl⟩
      · obtain ⟨before, next, behind, rfl, startsThere, same⟩ := inductionHypothesis later
        refine ⟨gap ++ first :: more ++ before, next, behind, ?_, startsThere, ?_⟩
        · simp
        · rw [same, ← Position.advance_append]

/-- Tokens stand behind the place where the scan starts. -/
theorem offset_le (scan : Scan place text tokens) {t : Token} (member : t ∈ tokens) :
    place.offset ≤ t.offset := by
  obtain ⟨before, first, rest, -, -, rfl⟩ := scan.lexeme_of_mem member
  show place.offset ≤ (place.advance before).offset
  rw [Position.advance_offset]
  exact Nat.le_add_right _ _

/-- A scan goes on where its first token stops. -/
theorem stop_at (place : Position) {gap more rest : List Char} {first : Char}
    (covers : (lexeme first (more ++ rest)).more = more.length) :
    ((lexeme first (more ++ rest)).at (place.advance gap)).stop =
      (place.advance (gap ++ first :: more)).offset := by
  show (place.advance gap).offset + ((lexeme first (more ++ rest)).more + 1) = _
  rw [covers, place.advance_append, Position.advance_offset _ (first :: more), List.length_cons]

/-- No token starts before the one in front of it stops. -/
theorem ascending (scan : Scan place text tokens) :
    tokens.Pairwise fun a b => a.stop ≤ b.offset := by
  induction scan with
  | done fills => exact List.Pairwise.nil
  | @token place gap more rest first tokens passes starts covers others inductionHypothesis =>
      refine List.pairwise_cons.mpr ⟨?_, inductionHypothesis⟩
      intro later member
      rw [stop_at place covers]
      exact others.offset_le member

/-- Every token stands at a later place than those in front of it. -/
theorem placed (scan : Scan place text tokens) :
    tokens.Pairwise fun a b => a.line < b.line ∨ a.line = b.line ∧ a.column < b.column := by
  induction scan with
  | done fills => exact List.Pairwise.nil
  | @token place gap more rest first tokens passes starts covers others inductionHypothesis =>
      refine List.pairwise_cons.mpr ⟨?_, inductionHypothesis⟩
      intro later member
      obtain ⟨before, next, behind, -, -, rfl⟩ := others.lexeme_of_mem member
      have onward := (place.advance gap).before_advance first (more ++ before)
      rw [← List.cons_append, Position.advance_append, ← place.advance_append] at onward
      exact onward

end Scan

end Vivarium.Source
