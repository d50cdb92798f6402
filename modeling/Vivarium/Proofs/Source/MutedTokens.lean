import Vivarium.Proofs.Source.LineByLine
import Vivarium.Proofs.Source.MutedGap
import Vivarium.Proofs.Source.Relocation

/-!
# The tokens of a muted text

Where a text resumes and no gap starts, a lexeme starts: it has no comment in it, and
behind it the text resumes again.  So a text and the muted text have the same lexemes, and
their tokens only differ in the offset.

Main definitions:

* `Token.Settled`: what a token says about the text around it.

Main statements:

* `lexeme_mute`: a lexeme of the muted text is the lexeme of the text;
* `lexeme_keeps`: muting leaves a lexeme alone;
* `tokenize_mute`: the tokens of the muted text;
* `settled_of_mem_tokenize`: every token of a text is settled in it.
-/

namespace Vivarium.Source

/-! ## Lexemes -/

/-- A string literal of the muted text is the literal of the text, and is kept. -/
theorem literal_mute (text : List Char) :
    literal (Mode.mute .quoted text) = literal text ∧
      Mode.Keeps .quoted (text.take (literal text).2) (text.drop (literal text).2) := by
  fun_induction literal text with
  | case1 => exact ⟨rfl, Mode.keeps_nil (by decide) (Mode.resumes_nil _)⟩
  | case2 rest =>
      have closed : Mode.Keeps (Mode.step .quoted '"') [] rest :=
        Mode.keeps_nil (by decide) (Mode.resumes_code rest)
      exact ⟨rfl, closed.cons (by decide)⟩
  | case3 rest => exact ⟨rfl, Mode.keeps_nil (by decide) (Mode.resumes_newline _ rest)⟩
  | case4 =>
      have ends : Mode.Keeps (Mode.step .quoted '\\') [] [] :=
        Mode.keeps_nil (by decide) (Mode.resumes_nil _)
      exact ⟨rfl, ends.cons (by decide)⟩
  | case5 rest =>
      have ends : Mode.Keeps (Mode.step .quoted '\\') [] ('\n' :: rest) :=
        Mode.keeps_nil (by decide) (Mode.resumes_newline _ rest)
      exact ⟨rfl, ends.cons (by decide)⟩
  | case6 c rest noBreak contents length read inductionHypothesis =>
      obtain ⟨same, keeps⟩ := inductionHypothesis
      have escape : Mode.step .quoted '\\' = .escaped := rfl
      have escaped : Mode.step .escaped c = .quoted := if_neg noBreak
      rw [read] at keeps
      constructor
      · rw [Mode.mute_cons (by decide), escape, Mode.mute_cons (by decide), escaped, literal,
          if_neg noBreak, same, read]
      · have second : Mode.Keeps .escaped (c :: rest.take length) (rest.drop length) :=
          Mode.Keeps.cons (escaped ▸ keeps) (by decide)
        have first : Mode.Keeps (Mode.step .quoted '\\') _ _ := second
        exact first.cons (by decide)
  | case7 c rest noQuote noBreak endsNot escapesNot contents length read inductionHypothesis =>
      obtain ⟨same, keeps⟩ := inductionHypothesis
      have noEscape : c ≠ '\\' := ne_backslash endsNot escapesNot
      have inside : Mode.step .quoted c = .quoted := by
        rw [Mode.step, if_neg noQuote, if_neg noBreak, if_neg noEscape]
      rw [read] at keeps
      constructor
      · rw [Mode.mute_cons (by decide), inside, literal_cons noQuote noBreak noEscape, same, read]
      · rw [← inside] at keeps
        exact keeps.cons (by decide)

theorem numberTail_mute (rest : List Char) :
    numberTail (Mode.mute .code rest) = numberTail rest := by
  have noSlash : Char.isDigit '/' = false := by decide
  have noQuote : Char.isDigit '"' = false := by decide
  simp only [numberTail, Mode.takeWhile_mute noSlash noQuote, Mode.dropWhile_mute noSlash noQuote]
  cases rest.dropWhile Char.isDigit with
  | nil => rfl
  | cons c others =>
      by_cases point : c = '.'
      · subst point
        cases others with
        | nil => rfl
        | cons d others =>
            have afterPoint : Mode.step .code '.' = .code := rfl
            rw [Mode.mute_code_cons, afterPoint, Mode.mute_code_cons]
            by_cases digit : d.isDigit = true
            · obtain ⟨other, noMark⟩ := Mode.ne_of_plain noSlash noQuote digit
              simp only [digit, if_true, Mode.step_code other noMark,
                Mode.takeWhile_mute noSlash noQuote]
            · simp [digit]
      · simp [point]

/-- The symbol at a character only depends on the next one. -/
theorem symbol_congr {first : Char} {rest others : List Char} (same : rest.head? = others.head?) :
    symbol first rest = symbol first others := by
  cases rest <;> cases others <;> cases same <;> rfl

/-- A lexeme of the muted text is the lexeme of the text. -/
theorem lexeme_mute (first : Char) (rest : List Char) :
    lexeme first ((Mode.step .code first).mute rest) = lexeme first rest := by
  by_cases quote : first = '"'
  · subst quote
    have inside : Mode.step .code '"' = .quoted := rfl
    rw [inside, lexeme, lexeme, if_pos rfl, if_pos rfl, (literal_mute rest).1]
  · rw [lexeme, lexeme, if_neg quote, if_neg quote]
    split
    · rename_i digit
      obtain ⟨noSlash, -⟩ : first ≠ '/' ∧ first ≠ '"' :=
        Mode.ne_of_plain (p := Char.isDigit) (by decide) (by decide) digit
      rw [Mode.step_code noSlash quote, numberTail_mute]
    · split
      · rename_i letter
        obtain ⟨noSlash, -⟩ : first ≠ '/' ∧ first ≠ '"' :=
          Mode.ne_of_plain (p := isWordStart) (by decide) (by decide) letter
        rw [Mode.step_code noSlash quote, word, word, Mode.takeWhile_mute (by decide) (by decide)]
      · exact symbol_congr (Mode.head?_mute (Mode.step_code_ne_comment first) rest)

/-- Slashes and quotation marks stand alone or start a string literal. -/
theorem plain_of_matches {kind : Token.Kind} {text : List Char} (fits : kind.Matches text)
    (several : 2 ≤ text.length) (noString : kind ≠ .string) :
    ∀ c ∈ text, c ≠ '/' ∧ c ≠ '"' := by
  have word : isIdentifier (String.ofList text) = true → ∀ c ∈ text, c ≠ '/' ∧ c ≠ '"' := by
    intro legal c member
    cases text with
    | nil => cases member
    | cons first more =>
        obtain ⟨starts, parts⟩ := isIdentifier_ofList.mp legal
        rcases List.mem_cons.mp member with rfl | later
        · exact Mode.ne_of_plain (p := isWordStart) (by decide) (by decide) starts
        · exact Mode.ne_of_plain (p := isWordPart) (by decide) (by decide) (parts c later)
  have digit : ∀ {c : Char}, c.isDigit = true → c ≠ '/' ∧ c ≠ '"' :=
    fun {c} => Mode.ne_of_plain (p := Char.isDigit) (by decide) (by decide)
  cases kind with
  | keyword => exact word fits
  | identifier => exact word fits
  | number =>
      obtain ⟨whole, fraction, -, wholeDigits, fractionDigits, rfl⟩ := fits
      intro c member
      rw [decimal_eq] at member
      rcases List.mem_append.mp member with inWhole | inFraction
      · exact digit (wholeDigits c inWhole)
      · cases fraction with
        | nil => cases inFraction
        | cons d others =>
            rcases List.mem_cons.mp inFraction with rfl | later
            · decide
            · exact digit (fractionDigits c later)
  | string => exact absurd rfl noString
  | operator =>
      rcases fits with ⟨c, -, rfl⟩ | ⟨pair, member, rfl⟩
      · exact absurd several (by simp)
      · have pairs : ∀ pair ∈ twoCharOperators, ∀ c ∈ [pair.1, pair.2], c ≠ '/' ∧ c ≠ '"' := by
          simp [twoCharOperators]
        exact pairs pair member
  | punctuation =>
      obtain ⟨c, rfl⟩ := fits
      exact absurd several (by simp)

/-- Where no gap starts, a lexeme has no comment in it, and behind it the text resumes. -/
theorem lexeme_keeps {first : Char} {rest : List Char}
    (starts : gapLength false (first :: rest) = 0) :
    (Mode.step .code first).Keeps (rest.take (lexeme first rest).more)
      (rest.drop (lexeme first rest).more) := by
  by_cases quote : first = '"'
  · subst quote
    have literal : lexeme '"' rest = ⟨.string, (literal rest).1, (literal rest).2⟩ := rfl
    rw [literal]
    exact (literal_mute rest).2
  · obtain ⟨kind, more, behind, rfl, lexeme, munch⟩ := lexeme_munches quote rest
    have length : (Lexeme.verbatim kind first more).more = more.length := rfl
    rw [lexeme, length, List.take_left, List.drop_left]
    cases more with
    | nil =>
        refine Mode.keeps_nil (Mode.step_code_ne_comment first) ?_
        by_cases slash : first = '/'
        · subst slash
          intro c next
          have noSlash : c ≠ '/' := by
            rintro rfl
            refine (solid_of_gapLength starts).2 ?_
            cases behind with
            | nil => cases next
            | cons second others =>
                cases next
                exact ⟨others, rfl⟩
          have slash : Mode.step .code '/' = .slash := rfl
          rw [slash, Mode.step, Mode.step, if_neg noSlash, if_neg noSlash]
        · rw [Mode.step_code slash quote]
          exact Mode.resumes_code behind
    | cons second others =>
        have noString : kind ≠ .string := by
          rintro rfl
          exact quote munch.starts
        have plain := plain_of_matches munch.fits (by simp) noString
        obtain ⟨here, later⟩ := List.forall_mem_cons.mp plain
        rw [Mode.step_code here.1 here.2]
        exact Mode.keeps_plain later behind

/-- What opens a block is a brace and nothing else. -/
theorem lexeme_of_opensBlock {first : Char} {rest : List Char} {place : Position}
    (opens : ((lexeme first rest).at place).opensBlock = true) :
    first = '\x7b' ∧ (lexeme first rest).more = 0 := by
  obtain ⟨kind, text⟩ := Bool.and_eq_true_iff.mp opens
  have noQuote : first ≠ '"' := by
    rintro rfl
    cases kind
  obtain ⟨kind', more, behind, rfl, verbatim, -⟩ := lexeme_munches noQuote rest
  rw [verbatim] at text ⊢
  have brace : first :: more = ['\x7b'] := by
    have same := congrArg String.toList (beq_iff_eq.mp text)
    rw [← String.toList_ofList (l := first :: more)]
    exact same
  obtain ⟨rfl, rfl⟩ := List.cons.inj brace
  exact ⟨rfl, rfl⟩

/-! ## What a reader meets -/

/-- A lexeme does not start with a line break. -/
theorem ne_newline_of_gapLength {first : Char} {rest : List Char}
    (starts : gapLength false (first :: rest) = 0) : first ≠ '\n' := by
  rintro rfl
  exact absurd (solid_of_gapLength starts).1 (by decide)

/-- A text that resumes still does behind its first gap. -/
theorem Mode.Resumes.behind_gap {m : Mode} {gap rest : List Char}
    (resumes : m.Resumes (gap ++ rest)) (passes : gapLength false (gap ++ rest) = gap.length) :
    (m.after gap).Resumes rest := by
  by_cases nothing : rest = []
  · subst nothing
    exact Mode.resumes_nil _
  cases gap with
  | nil => exact resumes
  | cons c others =>
      have inCode := @after_gap (c :: others ++ rest)
      rw [passes, List.drop_left, List.take_left] at inCode
      have before := resumes.take (c :: others).length
      rw [List.take_left] at before
      rw [before.after (List.cons_ne_nil c others), inCode nothing]
      exact Mode.resumes_code rest

/-- Where a text resumes and no gap starts, a lexeme is kept. -/
theorem Mode.Resumes.keeps {m : Mode} {first : Char} {rest : List Char}
    (resumes : m.Resumes (first :: rest)) (starts : gapLength false (first :: rest) = 0) :
    m.Keeps (first :: rest.take (lexeme first rest).more)
      (rest.drop (lexeme first rest).more) := by
  have keeps := lexeme_keeps starts
  rw [← resumes.cons] at keeps
  exact keeps.cons (resumes.ne_comment (ne_newline_of_gapLength starts))

/-! ## Tokens -/

/-- In the muted text a lexeme only makes a token at another offset. -/
theorem Lexeme.at_mute (lx : Lexeme) {before : List Char}
    (outside : Mode.after .code before ≠ .comment) (behind : List Char) :
    lx.at (Position.start.advance (Mode.mute .code before)) =
      (lx.at (Position.start.advance before)).relocated (muteOffset (before ++ behind)) := by
  obtain ⟨line, column⟩ := Mode.advance_mute .code before (p := Position.start) rfl fun _ => rfl
  have offset : (lx.at (Position.start.advance before)).offset = before.length :=
    lx.offset_at before
  rw [Token.relocated, offset, muteOffset_append, Lexeme.at, Lexeme.at, line, column outside,
    ← lx.offset_at (Mode.mute .code before)]
  rfl

/-- Where a reader resumes in code, the muted text has the tokens of the text. -/
theorem Scan.mute {place : Position} {text : List Char} {tokens : List Token}
    (scan : Scan place text tokens) (front : List Char)
    (reached : place = Position.start.advance front)
    (resumes : (Mode.after .code front).Resumes text) :
    tokensFrom (Position.start.advance (Mode.mute .code front)) (Mode.mute .code text) =
      tokens.map (Token.relocated (muteOffset (front ++ text))) := by
  induction scan generalizing front with
  | @done place gap fills =>
      have nothing := drop_gapLength_mute gap
      rw [fills, List.drop_length] at nothing
      exact tokensFrom_eq_nil nothing
  | @token place gap more rest first tokens passes starts covers others inductionHypothesis =>
      subst reached
      have start := resumes.behind_gap passes
      have keeps := start.keeps starts
      rw [covers, List.take_left, List.drop_left] at keeps
      rw [← Mode.after_append] at start keeps
      -- the gap and the lexeme in the muted text
      have inFront : (Mode.after .code front).mute gap = Mode.mute .code gap := by
        have before := resumes.take gap.length
        rw [List.take_left] at before
        exact before.mute
      have next := drop_gapLength_mute (gap ++ first :: (more ++ rest))
      rw [passes, List.drop_left, Mode.mute_code_cons] at next
      have gapThere : (Mode.mute .code (gap ++ first :: (more ++ rest))).take
          (gapLength false (Mode.mute .code (gap ++ first :: (more ++ rest)))) =
            Mode.mute .code gap := by
        rw [gapLength_mute, passes, List.take_left, Mode.mute_append, List.take_left]
      have lexemeThere := (lexeme_keeps starts).mute_append
      rw [covers, List.take_left, List.drop_left] at lexemeThere
      have outside := start.ne_comment (ne_newline_of_gapLength starts)
      have onward := inductionHypothesis (front ++ gap ++ first :: more)
        (by rw [← Position.advance_append, List.append_assoc])
        (by rw [Mode.after_append]; exact keeps.resumes)
      rw [Mode.mute_append, keeps.stays, Position.advance_append] at onward
      rw [tokensFrom_eq_cons next, lexeme_mute, covers, gapThere, ← Position.advance_append,
        ← inFront, ← Mode.mute_append, lexemeThere, List.take_left, List.drop_left, onward,
        List.map_cons, ← Position.advance_append,
        Lexeme.at_mute _ outside (first :: (more ++ rest))]
      simp only [List.append_assoc, List.cons_append]

/-- The tokens of the muted text are those of the text at other offsets. -/
theorem tokenize_mute (text : List Char) :
    tokenize (String.ofList (Mode.mute .code text)) =
      (tokenize (String.ofList text)).map (Token.relocated (muteOffset text)) := by
  have scan := scan_tokensFrom Position.start text
  have muted := scan.mute [] rfl (Mode.resumes_code text)
  rw [tokenize, tokenize, String.toList_ofList, String.toList_ofList]
  exact muted

/-- What a token says about the text around it: it has no comment in it and is not in
one, and behind the opening of a block a reader is in code. -/
structure Token.Settled (text : List Char) (t : Token) : Prop where
  length : muteOffset text t.stop = muteOffset text t.offset + t.length
  closed : Mode.after .code (text.take t.stop) ≠ .comment
  opens : t.opensBlock = true → Mode.after .code (text.take t.stop) = .code
  line : t.line = 1 + (text.take t.offset).count '\n'
  oneLine : (text.take t.stop).count '\n' = (text.take t.offset).count '\n'

theorem Lexeme.settled_at {before : List Char} {first : Char} {rest : List Char}
    (resumes : (Mode.after .code before).Resumes (first :: rest))
    (starts : gapLength false (first :: rest) = 0) :
    ((lexeme first rest).at (Position.start.advance before)).Settled (before ++ first :: rest) := by
  have keeps := resumes.keeps starts
  have offset := (lexeme first rest).offset_at before
  have taken : (before ++ first :: rest).take
      (before.length + ((lexeme first rest).more + 1)) =
        before ++ first :: rest.take (lexeme first rest).more := by
    rw [List.take_length_add_append, List.take_succ_cons]
  have stop : ((lexeme first rest).at (Position.start.advance before)).stop =
      before.length + ((lexeme first rest).more + 1) := congrArg (· + _) offset
  refine ⟨?_, ?_, ?_, ?_, ?_⟩
  · rw [stop, offset, muteOffset_add, List.take_left, List.drop_left, List.take_succ_cons,
      keeps.stays, List.length_cons, List.length_take_of_le (lexeme_more_le first rest)]
    rfl
  · rw [stop, taken, Mode.after_append]
    exact keeps.closed
  · intro opens
    obtain ⟨rfl, single⟩ := lexeme_of_opensBlock opens
    rw [stop, taken, Mode.after_append, single, List.take_zero, Mode.after_cons, resumes.cons]
    rfl
  · rw [offset, List.take_left]
    exact Position.line_advance _ _
  · rw [stop, taken, offset, List.take_left, List.count_append,
      List.count_eq_zero_of_not_mem (newline_notMem_lexeme starts), Nat.add_zero]

/-- Where a reader resumes in code, every token is settled. -/
theorem Scan.settled {place : Position} {text : List Char} {tokens : List Token}
    (scan : Scan place text tokens) (front : List Char)
    (reached : place = Position.start.advance front)
    (resumes : (Mode.after .code front).Resumes text) {t : Token} (member : t ∈ tokens) :
    t.Settled (front ++ text) := by
  induction scan generalizing front with
  | done fills => cases member
  | @token place gap more rest first tokens passes starts covers others inductionHypothesis =>
      subst reached
      have start := resumes.behind_gap passes
      have keeps := start.keeps starts
      rw [covers, List.take_left, List.drop_left] at keeps
      rw [← Mode.after_append] at start keeps
      rcases List.mem_cons.mp member with rfl | later
      · rw [← Position.advance_append, ← List.append_assoc]
        exact Lexeme.settled_at start starts
      · have onward := inductionHypothesis (front ++ gap ++ first :: more)
          (by rw [← Position.advance_append, List.append_assoc])
          (by rw [Mode.after_append]; exact keeps.resumes) later
        simpa only [List.append_assoc, List.cons_append] using onward

/-- Every token of a text is settled in it. -/
theorem settled_of_mem_tokenize {source : String} {t : Token} (member : t ∈ tokenize source) :
    t.Settled source.toList :=
  (scan_tokensFrom Position.start source.toList).settled [] rfl (Mode.resumes_code _) member

end Vivarium.Source
