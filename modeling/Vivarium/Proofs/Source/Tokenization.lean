import Vivarium.Proofs.Source.Munch
import Vivarium.Proofs.Source.Scan

/-!
# What reading into tokens comes to

Tokens stand in a text one behind the other and say where: by offset, line and column.
A token covers a text that its kind may have, and the longest such text that starts at
its place; only string literals have another text than they cover.  What no token
covers is blank or belongs to a comment, and a comment reaches to the end of its line.
None of this mentions how the text is read.

Main definitions:

* `IsComment`: a line comment in a text;
* `Covered`: a character that belongs to a token;
* `Token.IsPlaced`, `Token.IsLongest`: one token of a text;
* `IsTokenization`: all tokens of a text.

Main statements:

* `gap_cases`, `blank_or_comment`: what a gap consists of;
* `Scan.between`: what stands between the tokens of a scan;
* `tokenize_isTokenization`: reading gives a tokenization of every source.
-/

namespace Vivarium.Source

open Vivarium.Text (isBlank)

/-! ## Gaps -/

/-- A line comment between two offsets: two slashes, and what follows them up to the
end of the line. -/
def IsComment (text : List Char) (start stop : Nat) : Prop :=
  ∃ before body behind : List Char,
    text = before ++ ('/' :: '/' :: (body ++ behind)) ∧
      '\n' ∉ body ∧ (behind = [] ∨ ∃ rest, behind = '\n' :: rest) ∧
      start = before.length ∧ stop = before.length + (2 + body.length)

/-- A comment is one behind other characters, too. -/
theorem IsComment.behind {text : List Char} {start stop : Nat}
    (comment : IsComment text start stop) (front : List Char) :
    IsComment (front ++ text) (front.length + start) (front.length + stop) := by
  obtain ⟨before, body, behind, rfl, noBreak, ends, rfl, rfl⟩ := comment
  refine ⟨front ++ before, body, behind, ?_, noBreak, ends, ?_, ?_⟩
  · rw [List.append_assoc]
  · rw [List.length_append]
  · rw [List.length_append, Nat.add_assoc]

/-- An open comment reaches to the end of its line, and a gap may go on there. -/
theorem gapLength_open (text : List Char) :
    gapLength true text = (text.takeWhile (· ≠ '\n')).length +
      gapLength false (text.dropWhile (· ≠ '\n')) := by
  induction text with
  | nil => rfl
  | cons c rest inductionHypothesis =>
      rw [gapLength, List.takeWhile_cons, List.dropWhile_cons]
      by_cases ends : c = '\n'
      · subst ends
        simp [gapLength, Text.isBlank_newline]
      · simp only [ne_eq, ends, not_false_eq_true, decide_true, if_true, List.length_cons,
          inductionHypothesis]
        omega

/-- What a gap starts with: nothing, a blank, or a comment. -/
theorem gap_cases (text : List Char) :
    gapLength false text = 0 ∨
    (∃ c rest, text = [c] ++ rest ∧ isBlank c = true ∧
      gapLength false text = 1 + gapLength false rest) ∨
    ∃ body behind : List Char, text = '/' :: '/' :: body ++ behind ∧ '\n' ∉ body ∧
      (behind = [] ∨ ∃ rest, behind = '\n' :: rest) ∧
      gapLength false text = 2 + body.length + gapLength false behind := by
  cases text with
  | nil => exact Or.inl rfl
  | cons first rest =>
      by_cases blank : isBlank first = true
      · refine Or.inr (Or.inl ⟨first, rest, rfl, blank, ?_⟩)
        rw [gapLength, if_pos blank]
        exact Nat.add_comm _ _
      by_cases opens : (decide (first = '/') && decide (rest.head? = some '/')) = true
      · obtain ⟨slash, second⟩ := Bool.and_eq_true_iff.mp opens
        cases rest with
        | nil => cases of_decide_eq_true second
        | cons other line =>
            obtain rfl : first = '/' := of_decide_eq_true slash
            obtain rfl : other = '/' := Option.some.inj (of_decide_eq_true second)
            refine Or.inr (Or.inr ⟨line.takeWhile (· ≠ '\n'), line.dropWhile (· ≠ '\n'),
              ?_, ?_, ?_, ?_⟩)
            · rw [List.cons_append, List.cons_append, List.takeWhile_append_dropWhile]
            · intro member
              simpa using of_mem_takeWhile _ line '\n' member
            · have stops := stops_dropWhile (· ≠ '\n') line
              cases behind : line.dropWhile (· ≠ '\n') with
              | nil => exact Or.inl rfl
              | cons next others =>
                  rw [behind] at stops
                  have newline : next = '\n' := by simpa using stops next rfl
                  exact Or.inr ⟨others, by rw [newline]⟩
            · have slashes : decide ('/' ≠ '\n') = true := by decide
              rw [gapLength, if_neg blank, if_pos opens, gapLength_open, List.takeWhile_cons,
                List.dropWhile_cons, if_pos slashes, if_pos slashes, List.length_cons]
              omega
      · rw [gapLength, if_neg blank, if_neg opens]
        exact Or.inl rfl

/-- The offset stands in a comment of a gap. -/
def InComment (text : List Char) (offset : Nat) : Prop :=
  ∃ start stop, start ≤ offset ∧ offset < stop ∧ stop ≤ gapLength false text ∧
    IsComment text start stop

/-- Behind other characters of the gap a comment is as it is without them. -/
theorem InComment.behind {front text : List Char} {offset : Nat}
    (inside : InComment text offset)
    (passes : gapLength false (front ++ text) = front.length + gapLength false text) :
    InComment (front ++ text) (front.length + offset) := by
  obtain ⟨start, stop, started, stopsNot, inGap, comment⟩ := inside
  refine ⟨front.length + start, front.length + stop, ?_, ?_, ?_, comment.behind front⟩
  · exact Nat.add_le_add_left started _
  · exact Nat.add_lt_add_left stopsNot _
  · rw [passes]
    exact Nat.add_le_add_left inGap _

/-- A gap consists of blanks and comments. -/
theorem blank_or_comment {text : List Char} {offset : Nat} {c : Char}
    (inGap : offset < gapLength false text) (here : text[offset]? = some c) :
    isBlank c = true ∨ InComment text offset := by
  induction size : text.length using Nat.strongRecOn generalizing text offset with
  | ind length inductionHypothesis =>
      -- what a front leaves over is shorter, and what holds of it holds behind the front
      have onward : ∀ front rest : List Char, front ≠ [] → text = front ++ rest →
          gapLength false text = front.length + gapLength false rest → front.length ≤ offset →
          isBlank c = true ∨ InComment text offset := by
        rintro front rest nonempty rfl passes passed
        obtain ⟨later, rfl⟩ := Nat.exists_eq_add_of_le passed
        rw [List.getElem?_append_right passed, Nat.add_sub_cancel_left] at here
        have shorter : rest.length < length := by
          rw [← size, List.length_append]
          exact Nat.lt_add_of_pos_left (List.length_pos_iff.mpr nonempty)
        have inRest : later < gapLength false rest := by omega
        exact (inductionHypothesis _ shorter inRest here rfl).imp_right fun inside =>
          inside.behind passes
      rcases gap_cases text with none | ⟨blank, rest, parts, isBlank, passes⟩ |
        ⟨body, behind, parts, noBreak, ends, passes⟩
      · omega
      · by_cases first : offset = 0
        · subst first parts
          cases here
          exact Or.inl isBlank
        · exact onward [blank] rest (List.cons_ne_nil _ _) parts passes
            (Nat.one_le_iff_ne_zero.mpr first)
      · have length : ('/' :: '/' :: body).length = 2 + body.length := by
          rw [List.length_cons, List.length_cons]
          omega
        by_cases inside : offset < 2 + body.length
        · refine Or.inr ⟨0, 2 + body.length, Nat.zero_le _, inside, ?_, [], body, behind, parts,
            noBreak, ends, rfl, (Nat.zero_add _).symm⟩
          rw [passes]
          exact Nat.le_add_right _ _
        · refine onward ('/' :: '/' :: body) behind (List.cons_ne_nil _ _) parts ?_ ?_
          · rw [passes, length]
          · rw [length]
            exact Nat.not_lt.mp inside

/-! ## Between tokens -/

/-- A token covers the character at the offset. -/
def Covered (tokens : List Token) (offset : Nat) : Prop :=
  ∃ t ∈ tokens, t.offset ≤ offset ∧ offset < t.stop

instance (tokens : List Token) (offset : Nat) : Decidable (Covered tokens offset) :=
  inferInstanceAs (Decidable (∃ t ∈ tokens, t.offset ≤ offset ∧ offset < t.stop))

theorem covered_cons {t : Token} {others : List Token} {offset : Nat} :
    Covered (t :: others) offset ↔ (t.offset ≤ offset ∧ offset < t.stop) ∨
      Covered others offset := by
  constructor
  · rintro ⟨u, member, within⟩
    rcases List.mem_cons.mp member with rfl | later
    · exact Or.inl within
    · exact Or.inr ⟨u, later, within⟩
  · rintro (within | ⟨u, member, within⟩)
    · exact ⟨t, List.mem_cons_self, within⟩
    · exact ⟨u, List.mem_cons_of_mem t member, within⟩

/-- The character belongs to a comment, of which no token covers a character.  The text
starts at the given offset. -/
def Commented (origin : Nat) (text : List Char) (tokens : List Token) (offset : Nat) : Prop :=
  ∃ start stop, start ≤ offset ∧ offset < stop ∧ IsComment text start stop ∧
    ∀ other, start ≤ other → other < stop → ¬Covered tokens (origin + other)

/-- In front of the first token nothing is covered. -/
theorem not_covered_of_lt {tokens : List Token} {least offset : Nat}
    (behind : ∀ t ∈ tokens, least ≤ t.offset) (before : offset < least) :
    ¬Covered tokens offset := by
  rintro ⟨t, member, reached, -⟩
  exact absurd (Nat.le_trans (behind t member) reached) (Nat.not_le.mpr before)

/-- A comment in the gap in front of all tokens is covered by none of them. -/
theorem InComment.commented {text : List Char} {tokens : List Token} {origin offset : Nat}
    (inside : InComment text offset)
    (behind : ∀ t ∈ tokens, origin + gapLength false text ≤ t.offset) :
    Commented origin text tokens offset := by
  obtain ⟨start, stop, started, stopsNot, inGap, comment⟩ := inside
  refine ⟨start, stop, started, stopsNot, comment, ?_⟩
  intro other _ within
  exact not_covered_of_lt behind (by omega)

/-- A comment is covered by no token in front of it. -/
theorem Commented.behind {origin offset : Nat} {front text : List Char} {t : Token}
    {tokens : List Token} (commented : Commented (origin + front.length) text tokens offset)
    (stops : t.stop = origin + front.length) :
    Commented origin (front ++ text) (t :: tokens) (front.length + offset) := by
  obtain ⟨start, stop, started, stopsNot, comment, uncovered⟩ := commented
  refine ⟨front.length + start, front.length + stop, Nat.add_le_add_left started _,
    Nat.add_lt_add_left stopsNot _, comment.behind front, ?_⟩
  intro other after before covered
  obtain ⟨inner, rfl⟩ :=
    Nat.exists_eq_add_of_le (Nat.le_trans (Nat.le_add_right _ start) after)
  rcases covered_cons.mp covered with ⟨-, within⟩ | later
  · omega
  · rw [← Nat.add_assoc] at later
    exact uncovered inner (by omega) (by omega) later

/-- What no token of a scan covers is blank or belongs to a comment. -/
theorem Scan.between {place : Position} {text : List Char} {tokens : List Token}
    (scan : Scan place text tokens) {offset : Nat} {c : Char} (here : text[offset]? = some c)
    (free : ¬Covered tokens (place.offset + offset)) :
    isBlank c = true ∨ Commented place.offset text tokens offset := by
  induction scan generalizing offset with
  | done fills =>
      obtain ⟨within, -⟩ := List.getElem?_eq_some_iff.mp here
      rw [← fills] at within
      exact (blank_or_comment within here).imp_right fun inside =>
        inside.commented (List.forall_mem_nil _)
  | @token place gap more rest first tokens passes starts covers others inductionHypothesis =>
      let head := (lexeme first (more ++ rest)).at (place.advance gap)
      have headOffset : head.offset = place.offset + gap.length := Position.advance_offset _ _
      have nextOffset : (place.advance (gap ++ first :: more)).offset =
          place.offset + (gap ++ first :: more).length := Position.advance_offset _ _
      have headStop : head.stop = place.offset + (gap ++ first :: more).length :=
        (Scan.stop_at place covers).trans nextOffset
      have size : (gap ++ first :: more).length = gap.length + (more.length + 1) := by
        rw [List.length_append, List.length_cons]
      by_cases inGap : offset < gap.length
      · -- the gap in front of the token
        rw [← passes] at inGap
        refine (blank_or_comment inGap here).imp_right fun inside => inside.commented ?_
        rw [passes]
        refine List.forall_mem_cons.mpr ⟨Nat.le_of_eq headOffset.symm, ?_⟩
        intro t member
        have later := others.offset_le member
        omega
      by_cases inToken : offset < (gap ++ first :: more).length
      · have within : head.offset ≤ place.offset + offset ∧ place.offset + offset < head.stop := by
          omega
        exact absurd (covered_cons.mpr (Or.inl within)) free
      · -- the scan goes on behind the token
        obtain ⟨later, rfl⟩ := Nat.exists_eq_add_of_le (Nat.not_lt.mp inToken)
        have divided : gap ++ first :: (more ++ rest) = (gap ++ first :: more) ++ rest := by
          rw [List.append_assoc, List.cons_append]
        rw [divided, List.getElem?_append_right (Nat.le_add_right _ _),
          Nat.add_sub_cancel_left] at here
        rw [nextOffset] at inductionHypothesis
        rw [divided]
        refine (inductionHypothesis here ?_).imp_right fun behind => behind.behind headStop
        intro covered
        rw [Nat.add_assoc] at covered
        exact free (covered_cons.mpr (Or.inr covered))

/-! ## Tokenizations -/

/-- A token says where it stands in a text. -/
structure Token.IsPlaced (text : List Char) (t : Token) : Prop where
  nonempty : 1 ≤ t.length
  inside : t.stop ≤ text.length
  /-- Lines are counted from one by the line breaks in front. -/
  line : t.line = 1 + (text.take t.offset).count '\n'
  /-- Columns are counted from zero by the characters behind the last line break. -/
  column : t.column = ((text.take t.offset).reverse.takeWhile (· ≠ '\n')).length

/-- A token is the longest text of its kind where it stands. -/
structure Token.IsLongest (text : List Char) (t : Token) : Prop where
  /-- The first character decides about the kind. -/
  starts : ∃ first, text[t.offset]? = some first ∧ isBlank first = false ∧
    t.kind.StartsWith first
  noComment : ¬['/', '/'] <+: text.drop t.offset
  verbatim : t.kind ≠ .string → t.text.toList = t.span text
  fits : t.kind ≠ .string → t.kind.Matches (t.span text)
  /-- A longer text of the kind does not start there. -/
  longest : t.kind ≠ .string → ∀ longer, t.span text <+: longer →
    longer <+: text.drop t.offset → t.kind.Matches longer → longer = t.span text
  reserved : t.isWord = true → (t.kind = .keyword ↔ t.text ∈ keywords)

section Lexemes

variable (before : List Char) {first : Char} {rest : List Char}

/-- The token of a lexeme stands behind what is in front of the lexeme. -/
theorem Lexeme.offset_at (lx : Lexeme) :
    (lx.at (Position.start.advance before)).offset = before.length :=
  (Position.advance_offset _ _).trans (Nat.zero_add _)

/-- The token of a lexeme is placed in the text around the lexeme. -/
theorem Lexeme.isPlaced_at :
    ((lexeme first rest).at (Position.start.advance before)).IsPlaced
      (before ++ first :: rest) := by
  have offset := (lexeme first rest).offset_at before
  refine ⟨Nat.le_add_left 1 _, ?_, ?_, ?_⟩
  · have covered := lexeme_more_le first rest
    rw [Token.stop, offset, List.length_append, List.length_cons]
    show before.length + ((lexeme first rest).more + 1) ≤ _
    omega
  · rw [offset, List.take_left]
    exact Position.line_advance _ _
  · rw [offset, List.take_left]
    exact Position.column_advance_start before

/-- Where no gap starts there is no blank and no comment. -/
theorem solid_of_gapLength (starts : gapLength false (first :: rest) = 0) :
    isBlank first = false ∧ ¬['/', '/'] <+: first :: rest := by
  rw [gapLength] at starts
  split at starts
  · cases starts
  rename_i notBlank
  split at starts
  · cases starts
  rename_i opensNot
  refine ⟨Bool.not_eq_true _ ▸ notBlank, ?_⟩
  rintro ⟨after, same⟩
  obtain ⟨rfl, rfl⟩ := List.cons.inj same
  exact opensNot rfl

/-- The token of a lexeme is the longest of its kind in the text around the lexeme. -/
theorem Lexeme.isLongest_at (starts : gapLength false (first :: rest) = 0) :
    ((lexeme first rest).at (Position.start.advance before)).IsLongest
      (before ++ first :: rest) := by
  have offset := (lexeme first rest).offset_at before
  have onward : (before ++ first :: rest).drop
      ((lexeme first rest).at (Position.start.advance before)).offset = first :: rest := by
    rw [offset, List.drop_left]
  have here : (before ++ first :: rest)[
      ((lexeme first rest).at (Position.start.advance before)).offset]? = some first := by
    rw [← List.head?_drop, onward]
    rfl
  have span := (lexeme first rest).span_at before first rest
  obtain ⟨solid, noComment⟩ := solid_of_gapLength starts
  rw [← onward] at noComment
  by_cases quote : first = '"'
  · -- of a string literal only its first character is known
    have kind : (lexeme first rest).kind = .string := by
      rw [lexeme, if_pos quote]
    refine ⟨⟨first, here, solid, ?_⟩, noComment, absurd kind, absurd kind, absurd kind, ?_⟩
    · show (lexeme first rest).kind.StartsWith first
      rw [kind]
      exact quote
    · show ((lexeme first rest).kind == .identifier || (lexeme first rest).kind == .keyword) =
        true → _
      rw [kind]
      intro impossible
      cases impossible
  · obtain ⟨kind, more, behind, divided, read, munch⟩ := lexeme_munches quote rest
    have taken : rest.take (lexeme first rest).more = more := by
      rw [read, divided]
      exact List.take_left
    rw [taken] at span
    rw [read] at here noComment span onward ⊢
    refine ⟨⟨first, here, solid, munch.starts⟩, noComment, ?_, ?_, ?_, ?_⟩
    · intro _
      rw [span]
      exact String.toList_ofList
    · intro _
      rw [span]
      exact munch.fits
    · intro _ longer covers inText isLonger
      rw [span] at covers ⊢
      obtain ⟨further, rfl⟩ := covers
      rw [onward, divided] at inText
      have inBehind : further <+: behind :=
        (List.prefix_append_right_inj more).mp (List.cons_prefix_cons.mp inText).2
      rw [munch.longest further inBehind isLonger, List.append_nil]
    · intro word
      exact munch.reserved ((Bool.or_eq_true_iff.mp word).symm.imp beq_iff_eq.mp beq_iff_eq.mp)

end Lexemes

/-- The tokens of a text, from the first to the last. -/
structure IsTokenization (text : List Char) (tokens : List Token) : Prop where
  placed : ∀ t ∈ tokens, t.IsPlaced text
  longest : ∀ t ∈ tokens, t.IsLongest text
  /-- No token starts before the one in front of it stops. -/
  ascending : tokens.Pairwise fun a b => a.stop ≤ b.offset
  /-- What no token covers is blank or belongs to a comment. -/
  between : ∀ offset c, text[offset]? = some c → ¬Covered tokens offset →
    isBlank c = true ∨ ∃ start stop, start ≤ offset ∧ offset < stop ∧
      IsComment text start stop ∧
      ∀ other, start ≤ other → other < stop → ¬Covered tokens other

/-- Reading gives a tokenization of every source. -/
theorem tokenize_isTokenization (source : String) :
    IsTokenization source.toList (tokenize source) := by
  have scan := scan_tokensFrom Position.start source.toList
  have fromStart : ∀ offset, Position.start.offset + offset = offset := Nat.zero_add
  refine ⟨?_, ?_, scan.ascending, ?_⟩
  · intro t member
    obtain ⟨before, first, rest, divided, -, rfl⟩ := scan.lexeme_of_mem member
    rw [divided]
    exact Lexeme.isPlaced_at before
  · intro t member
    obtain ⟨before, first, rest, divided, starts, rfl⟩ := scan.lexeme_of_mem member
    rw [divided]
    exact Lexeme.isLongest_at before starts
  · intro offset c here free
    have between := scan.between here (by rwa [fromStart])
    simp only [Commented, fromStart] at between
    exact between

/-- A number in front of a comment: the number goes no further, and the last character
belongs to the comment. -/
theorem tokenize_isTokenization_tagged :
    (⟨.number, "1.5", 1, 3, 3, 3⟩ : Token).IsLongest "a<=1.5// b".toList ∧
      ∃ start stop, start ≤ 9 ∧ 9 < stop ∧ IsComment "a<=1.5// b".toList start stop := by
  have reading := tokenize_isTokenization "a<=1.5// b"
  have member : (⟨.number, "1.5", 1, 3, 3, 3⟩ : Token) ∈ tokenize "a<=1.5// b" := by
    decide +kernel
  have free : ¬Covered (tokenize "a<=1.5// b") 9 := by decide +kernel
  refine ⟨reading.longest _ member, ?_⟩
  rcases reading.between 9 'b' (by decide) free with blank | ⟨start, stop, comment⟩
  · exact absurd blank (by decide)
  · exact ⟨start, stop, comment.1, comment.2.1, comment.2.2.1⟩

end Vivarium.Source
