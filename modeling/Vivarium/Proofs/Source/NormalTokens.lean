import Vivarium.Proofs.Source.Tidying

/-!
# The tokens of a normal workflow

The normal form of a workflow is a matter of its characters: nobody asks whether a blank
stands between two tokens, in a string literal, or is the line break at the end of a comment.
Where it does stand between two tokens, the tokens stay, but for semicolons that directly
follow another one.  What a workflow has to be like for that is said of its tokens: none
stands behind a comment, which would go on over it on the single line of the normal form, and
string literals have nothing in them that is taken away.

Main definitions:

* `dropRepeated`: tokens without the semicolons that directly follow another one;
* `KeepsTokens`: a workflow whose tokens stay in this sense;
* `IsSettledLiteral`, `IsPlainWorkflow`: what a workflow is like whose tokens stay;
* `IsPlain`: the same of a text, as a sequence of blanks and lexemes.

Main statements:

* `IsPlain.shapes_tidy`: what the passes make of the tokens, behind a semicolon or not;
* `keepsTokens_of_plain`: the tokens of a plain workflow stay;
* `not_keepsTokens_commented`: those behind a comment do not, nor do other literals.
-/

namespace Vivarium.Source

open Vivarium.Text (isBlank trim trimStart trimEnd)

/-! ## Semicolons -/

/-- A semicolon as a token. -/
def semicolon : Token.Kind × String := (.punctuation, ";")

/-- A semicolon makes a semicolon. -/
theorem shapes_semicolon (rest : List Char) : shapes (';' :: rest) = semicolon :: shapes rest := by
  have alone : lexeme ';' rest = Lexeme.verbatim .punctuation ';' [] := lexeme_mark (by simp) rest
  have first : shapes (';' :: ([] ++ rest)) = (lexeme ';' ([] ++ rest)).shape :: shapes rest :=
    shapes_lexeme rfl (by rw [List.nil_append, alone]; rfl)
  rw [List.nil_append, alone] at first
  exact first

/-- Tokens without the semicolons that directly follow another one.  The flag tells whether a
semicolon stands in front of all of them. -/
def dropRepeated : Bool → List (Token.Kind × String) → List (Token.Kind × String)
  | _, [] => []
  | behind, token :: rest =>
      if token = semicolon then
        if behind then dropRepeated true rest else token :: dropRepeated true rest
      else token :: dropRepeated false rest

theorem dropRepeated_semicolon (rest : List (Token.Kind × String)) :
    dropRepeated false (semicolon :: rest) = semicolon :: dropRepeated true rest ∧
      dropRepeated true (semicolon :: rest) = dropRepeated true rest := by
  constructor <;> rw [dropRepeated, if_pos rfl] <;> rfl

theorem dropRepeated_other {token : Token.Kind × String} (other : token ≠ semicolon)
    (behind : Bool) (rest : List (Token.Kind × String)) :
    dropRepeated behind (token :: rest) = token :: dropRepeated false rest := by
  rw [dropRepeated, if_neg other]

/-! ## Plain texts -/

/-- A string literal in front of the rest of a text.  It has no more blanks and semicolons than
it needs, and is closed, or else ends with no blank and has nothing but blanks behind it. -/
structure IsSettledLiteral (span rest : List Char) : Prop extends IsCollapsed span where
  ends : Mode.after .code span = .code ∨
    (∀ c, span.getLast? = some c → isBlank c = false) ∧ ∀ c ∈ rest, isBlank c = true

instance (span rest : List Char) : Decidable (IsSettledLiteral span rest) :=
  have solid : span.getLast?.all (!isBlank ·) = true ↔
      ∀ c, span.getLast? = some c → isBlank c = false := by
    simp only [Option.all_eq_true, Bool.not_eq_true']
  have blanks : rest.all isBlank = true ↔ ∀ c ∈ rest, isBlank c = true := List.all_eq_true
  decidable_of_iff
    (IsCollapsed span ∧ (Mode.after .code span = .code ∨
      span.getLast?.all (!isBlank ·) = true ∧ rest.all isBlank = true))
    (by rw [solid, blanks]; exact ⟨fun ⟨c, e⟩ => ⟨c, e⟩, fun ⟨c, e⟩ => ⟨c, e⟩⟩)

/-- A text as a sequence of blanks and lexemes.  Only behind all lexemes a comment may stand,
and string literals are settled. -/
inductive IsPlain : List Char → Prop where
  | gap {text : List Char} (fills : gapLength false text = text.length) : IsPlain text
  | blank {c : Char} {rest : List Char} (blank : isBlank c = true) (onward : IsPlain rest) :
      IsPlain (c :: rest)
  | lexeme {first : Char} {more rest : List Char}
      (starts : gapLength false (first :: (more ++ rest)) = 0)
      (covers : (lexeme first (more ++ rest)).more = more.length)
      (settled : first = '"' → IsSettledLiteral (first :: more) rest) (onward : IsPlain rest) :
      IsPlain (first :: (more ++ rest))

theorem IsPlain.blanks {gap rest : List Char} (all : ∀ c ∈ gap, isBlank c = true)
    (plain : IsPlain rest) : IsPlain (gap ++ rest) := by
  induction gap with
  | nil => exact plain
  | cons c others inductionHypothesis =>
      obtain ⟨blank, later⟩ := List.forall_mem_cons.mp all
      exact .blank blank (inductionHypothesis later)

/-! ## Blanks and comments -/

section Gaps

variable {c : Char}

theorem shapes_tidy_blank (blank : isBlank c = true) (rest : List Char) :
    shapes (tidy (c :: rest)) = shapes (tidy rest) := by
  rw [← shapes_tidy_trimStart, trimStart, List.dropWhile_cons_of_pos blank, ← trimStart,
    shapes_tidy_trimStart]

theorem shapes_tidyBehind_blank (blank : isBlank c = true) (rest : List Char) :
    shapes (tidyBehind (c :: rest)) = shapes (tidyBehind rest) := by
  rw [← shapes_tidyBehind_trimStart, trimStart, List.dropWhile_cons_of_pos blank, ← trimStart,
    shapes_tidyBehind_trimStart]

/-- A tidy text is a single line. -/
theorem newline_notMem_tidy (text : List Char) : '\n' ∉ tidy text := by
  intro member
  have tidied := (isCollapsed_collapse text).of_part (trimEnd_isPrefix _).isInfix
  exact absurd (tidied.spaces '\n' member Text.isBlank_newline) (by decide)

/-- A comment goes on to the end of it. -/
theorem shapes_tidy_comment (text : List Char) :
    shapes (tidy ('/' :: '/' :: text)) = [] ∧ shapes (tidyBehind ('/' :: '/' :: text)) = [] := by
  have opening : IsPiece ['/', '/'] := IsPiece.of_marks (List.all_eq_true.mp rfl)
  have slashes : tidy ('/' :: '/' :: text) = '/' :: '/' :: (tidy text ++ []) := by
    rw [List.append_nil]
    exact tidy_append opening text
  have nothing : shapes (tidy ('/' :: '/' :: text)) = [] := by
    rw [slashes]
    refine shapes_of_fills ?_
    rw [gapLength_comment (newline_notMem_tidy text) (.inl rfl), List.append_nil]
    simp [gapLength]
  exact ⟨nothing, (tidyBehind_mark (c := '/') _ (by decide)).symm ▸ nothing⟩

/-- No token comes out of a gap. -/
theorem shapes_tidy_of_fills {text : List Char} (fills : gapLength false text = text.length) :
    shapes (tidy text) = [] ∧ shapes (tidyBehind text) = [] := by
  induction text using gap_induction with
  | none text nothing =>
      obtain rfl := List.length_eq_zero_iff.mp (fills.symm.trans nothing)
      rw [tidyBehind, collapseBlanks, dropSemicolons, collapseSemicolons, tidy_nil]
      exact ⟨shapes_nil, shapes_nil⟩
  | blank c rest blank inductionHypothesis =>
      rw [gapLength_blank blank, List.length_cons] at fills
      rw [shapes_tidy_blank blank, shapes_tidyBehind_blank blank]
      exact inductionHypothesis (Nat.add_right_cancel fills)
  | comment body behind _ _ _ => exact shapes_tidy_comment _

end Gaps

/-! ## Lexemes -/

section Lexemes

variable {first : Char} {more rest : List Char}

theorem takeWhile_append_tidy (more rest : List Char) :
    (more ++ tidy rest).takeWhile isMark = (more ++ rest).takeWhile isMark := by
  rw [List.takeWhile_append, List.takeWhile_append, takeWhile_tidy]

/-- Where no gap starts, none starts in a text that goes on alike up to the next blank or
semicolon. -/
theorem gapLength_congr {others : List Char} (starts : gapLength false (first :: rest) = 0)
    (same : rest.takeWhile isMark = others.takeWhile isMark) :
    gapLength false (first :: others) = 0 := by
  obtain ⟨solid, noComment⟩ := solid_of_gapLength starts
  have head : others.head? = some '/' → rest.head? = some '/' := by
    intro slash
    obtain ⟨after, rfl⟩ := List.head?_eq_some_iff.mp slash
    rw [List.takeWhile_cons_of_pos (by decide)] at same
    cases rest with
    | nil => cases same
    | cons c before =>
        rw [List.takeWhile_cons] at same
        split at same
        · rw [(List.cons.inj same).1]
          rfl
        · cases same
  rw [gapLength, if_neg (Bool.eq_false_iff.mp solid), if_neg]
  intro opens
  obtain ⟨slash, second⟩ := Bool.and_eq_true_iff.mp opens
  obtain ⟨after, rfl⟩ := List.head?_eq_some_iff.mp (head (of_decide_eq_true second))
  rw [of_decide_eq_true slash] at noComment
  exact noComment ⟨after, rfl⟩

/-- Nothing else makes a semicolon. -/
theorem Lexeme.shape_ne_semicolon (other : first ≠ ';') (rest : List Char) :
    (lexeme first rest).shape ≠ semicolon := by
  by_cases quote : first = '"'
  · subst quote
    exact fun same => nomatch (Prod.mk.inj same).1
  · obtain ⟨kind, more, behind, -, verbatim, -⟩ := lexeme_munches quote rest
    rw [verbatim]
    intro same
    have text := congrArg String.toList (Prod.mk.inj same).2
    rw [Lexeme.verbatim, String.toList_ofList] at text
    exact other (List.cons.inj text).1

/-- A lexeme that is left alone, and reads alike in front of what becomes of the rest. -/
theorem shapes_tidy_lexeme (starts : gapLength false (first :: (more ++ rest)) = 0)
    (covers : (lexeme first (more ++ rest)).more = more.length)
    (alone : tidy (first :: more ++ rest) = first :: more ++ tidy rest)
    (same : lexeme first (more ++ tidy rest) = lexeme first (more ++ rest)) :
    shapes (tidy (first :: (more ++ rest))) =
      (lexeme first (more ++ rest)).shape :: shapes (tidy rest) := by
  have startsTidy := gapLength_congr starts (takeWhile_append_tidy more rest).symm
  rw [← List.cons_append, alone, List.cons_append, shapes_lexeme startsTidy (same ▸ covers), same]

/-- Words, numbers and operators are left alone, -/
theorem shapes_tidy_word (noQuote : first ≠ '"') (other : first ≠ ';')
    (starts : gapLength false (first :: (more ++ rest)) = 0)
    (covers : (lexeme first (more ++ rest)).more = more.length) :
    shapes (tidy (first :: (more ++ rest))) =
      (lexeme first (more ++ rest)).shape :: shapes (tidy rest) := by
  have mark : isMark first = true := isMark_iff.mpr ⟨(solid_of_gapLength starts).1, other⟩
  have marks : ∀ c ∈ first :: more, isMark c = true :=
    List.forall_mem_cons.mpr ⟨mark, isMark_of_mem_lexeme noQuote covers⟩
  exact shapes_tidy_lexeme starts covers (tidy_append (IsPiece.of_marks marks) rest)
    (lexeme_congr noQuote (takeWhile_append_tidy more rest))

/-- and settled string literals are. -/
theorem shapes_tidy_literal (starts : gapLength false ('"' :: (more ++ rest)) = 0)
    (covers : (lexeme '"' (more ++ rest)).more = more.length)
    (settled : IsSettledLiteral ('"' :: more) rest) :
    shapes (tidy ('"' :: (more ++ rest))) =
      (lexeme '"' (more ++ rest)).shape :: shapes (tidy rest) := by
  have length : (literal (more ++ rest)).2 = more.length := covers
  have reaches := literal_ends (more ++ rest)
  rw [length, List.take_left, List.drop_left] at reaches
  have readsAlike : ∀ behind, literal (more ++ behind) = literal (more ++ rest) →
      lexeme '"' (more ++ behind) = lexeme '"' (more ++ rest) := by
    intro behind same
    rw [lexeme, lexeme, if_pos rfl, if_pos rfl, same]
  rcases settled.ends with closed | ⟨solid, blanks⟩
  · obtain ⟨-, last, same⟩ := reaches.resolve_right fun openEnd => openEnd.1 closed
    refine shapes_tidy_lexeme starts covers (tidy_append ⟨settled.toIsCollapsed, ?_⟩ rest)
      (readsAlike _ (same _))
    intro c atEnd
    rw [List.getLast?_cons, last] at atEnd
    obtain rfl := Option.some.inj atEnd
    decide
  · have nothing : tidy rest = [] := by
      refine tidy_append_blanks isCollapsed_nil ?_ blanks
      intro c impossible
      cases impossible
    have alone := tidy_append_blanks settled.toIsCollapsed solid blanks
    refine shapes_tidy_lexeme starts covers (by rw [alone, nothing, List.append_nil]) ?_
    rw [nothing]
    rcases reaches with ⟨-, -, same⟩ | ⟨-, rfl | ⟨after, rfl⟩⟩
    · exact readsAlike _ (same [])
    · rfl
    · rw [List.append_nil, lexeme_append_newline]

end Lexemes

/-! ## Plain texts -/

/-- The passes leave the tokens of a plain text, but for the semicolons that directly follow
another one. -/
theorem IsPlain.shapes_tidy {text : List Char} (plain : IsPlain text) :
    shapes (tidy text) = dropRepeated false (shapes text) ∧
      shapes (tidyBehind text) = dropRepeated true (shapes text) := by
  induction plain with
  | gap fills =>
      obtain ⟨nothing, nothingBehind⟩ := shapes_tidy_of_fills fills
      rw [nothing, nothingBehind, shapes_of_fills fills]
      exact ⟨rfl, rfl⟩
  | @blank c rest blank _ inductionHypothesis =>
      rw [shapes_tidy_blank blank, shapes_tidyBehind_blank blank, shapes_blank blank]
      exact inductionHypothesis
  | @lexeme first more rest starts covers settled _ inductionHypothesis =>
      obtain ⟨here, behind⟩ := inductionHypothesis
      by_cases same : first = ';'
      · subst same
        rw [lexeme_mark (by simp)] at covers
        obtain rfl : more = [] := List.length_eq_zero_iff.mp covers.symm
        obtain ⟨kept, dropped⟩ := dropRepeated_semicolon (shapes rest)
        rw [List.nil_append, tidyBehind_semicolon, tidy_semicolon, List.singleton_append,
          shapes_semicolon, shapes_semicolon, behind, kept, dropped]
        exact ⟨rfl, rfl⟩
      · have solid := (solid_of_gapLength starts).1
        have stays : shapes (tidy (first :: (more ++ rest))) =
            (Source.lexeme first (more ++ rest)).shape :: shapes (tidy rest) := by
          by_cases quote : first = '"'
          · subst quote
            exact shapes_tidy_literal starts covers (settled rfl)
          · exact shapes_tidy_word quote same starts covers
        rw [tidyBehind_mark _ (isMark_iff.mpr ⟨solid, same⟩), stays, here,
          shapes_lexeme starts covers, dropRepeated_other (Lexeme.shape_ne_semicolon same _),
          dropRepeated_other (Lexeme.shape_ne_semicolon same _)]
        exact ⟨rfl, rfl⟩

/-! ## Workflows -/

/-- The trim at the start of a text does not matter for its tokens. -/
theorem shapes_normalText (text : List Char) : shapes (normalText text) = shapes (tidy text) := by
  rw [normalText, tidy, trim]
  generalize collapseSemicolons (collapseBlanks false text) = left
  induction left with
  | nil => rfl
  | cons c rest inductionHypothesis =>
      by_cases blank : isBlank c = true
      · rw [trimStart, List.dropWhile_cons_of_pos blank, ← trimStart, inductionHypothesis,
          shapes_trimEnd_blank blank]
      · rw [trimStart, List.dropWhile_cons_of_neg blank]

/-- The tokens of the normal form of a workflow are those of the workflow, in their order, but
for the semicolons that directly follow another one. -/
def KeepsTokens (workflow : String) : Prop :=
  (tokenize (normalWorkflow workflow)).map Token.shape =
    dropRepeated false ((tokenize workflow).map Token.shape)

instance (workflow : String) : Decidable (KeepsTokens workflow) :=
  inferInstanceAs (Decidable (_ = _))

/-- A workflow in which blanks, semicolons and line breaks only separate tokens. -/
structure IsPlainWorkflow (workflow : String) : Prop where
  /-- In front of a token stand only blanks and other tokens, -/
  uncommented : ∀ t ∈ tokenize workflow, ∀ offset < t.offset,
    workflow.toList[offset]?.all isBlank = true ∨ Covered (tokenize workflow) offset
  /-- and string literals are settled. -/
  literals : ∀ t ∈ tokenize workflow, t.kind = .string →
    IsSettledLiteral (t.span workflow.toList) (workflow.toList.drop t.stop)

instance (workflow : String) : Decidable (IsPlainWorkflow workflow) :=
  decidable_of_iff
    ((∀ t ∈ tokenize workflow, ∀ offset < t.offset,
        workflow.toList[offset]?.all isBlank = true ∨ Covered (tokenize workflow) offset) ∧
      ∀ t ∈ tokenize workflow, t.kind = .string →
        IsSettledLiteral (t.span workflow.toList) (workflow.toList.drop t.stop))
    ⟨fun ⟨uncommented, literals⟩ => ⟨uncommented, literals⟩,
      fun ⟨uncommented, literals⟩ => ⟨uncommented, literals⟩⟩

/-- Where the first token of a scan stands, behind what is in front of the scan. -/
theorem Lexeme.placed_at (front gap : List Char) {first : Char} {more rest : List Char}
    (covers : (lexeme first (more ++ rest)).more = more.length) :
    let head := (lexeme first (more ++ rest)).at ((Position.start.advance front).advance gap)
    head.offset = (front ++ gap).length ∧ head.stop = (front ++ (gap ++ first :: more)).length ∧
      head.span (front ++ (gap ++ first :: (more ++ rest))) = first :: more := by
  have behind := Position.advance_append Position.start front gap
  have offset := (lexeme first (more ++ rest)).offset_at (front ++ gap)
  have span := (lexeme first (more ++ rest)).span_at (front ++ gap) first (more ++ rest)
  rw [behind] at offset span
  refine ⟨offset, ?_, ?_⟩
  · rw [Token.stop, offset]
    show _ + ((lexeme first (more ++ rest)).more + 1) = _
    simp only [covers, List.length_append, List.length_cons]
    omega
  · rw [← List.append_assoc, span, covers, List.take_left]

/-- A gap in front of all tokens is blank, if what stands in it is blank or covered. -/
theorem isBlank_of_uncovered {front gap rest : List Char} {tokens : List Token} {least : Nat}
    (ends : least = (front ++ gap).length) (behind : ∀ t ∈ tokens, least ≤ t.offset)
    (uncommented : ∀ offset < least, front.length ≤ offset →
      (front ++ (gap ++ rest))[offset]?.all isBlank = true ∨ Covered tokens offset) :
    ∀ c ∈ gap, isBlank c = true := by
  intro c member
  obtain ⟨index, here⟩ := List.mem_iff_getElem?.mp member
  obtain ⟨inGap, -⟩ := List.getElem?_eq_some_iff.mp here
  have before : front.length + index < least := by
    rw [ends, List.length_append]
    omega
  have found : (front ++ (gap ++ rest))[front.length + index]? = some c := by
    rw [List.getElem?_append_right (Nat.le_add_right _ _), Nat.add_sub_cancel_left,
      List.getElem?_append_left inGap, here]
  have blank := (uncommented _ before (Nat.le_add_right _ _)).resolve_right
    (not_covered_of_lt behind before)
  rw [found] at blank
  exact blank

/-- What a scan goes through is plain if its tokens say so. -/
theorem Scan.isPlain {place : Position} {text : List Char} {tokens : List Token}
    (scan : Scan place text tokens) (front : List Char)
    (reached : place = Position.start.advance front)
    (uncommented : ∀ t ∈ tokens, ∀ offset < t.offset, front.length ≤ offset →
      (front ++ text)[offset]?.all isBlank = true ∨ Covered tokens offset)
    (literals : ∀ t ∈ tokens, t.kind = .string →
      IsSettledLiteral (t.span (front ++ text)) ((front ++ text).drop t.stop)) :
    IsPlain text := by
  induction scan generalizing front with
  | done fills => exact .gap fills
  | @token place gap more rest first tokens passes starts covers others inductionHypothesis =>
      subst reached
      have ascending := (Scan.token passes starts covers others).ascending
      obtain ⟨offset, stop, span⟩ := Lexeme.placed_at front gap covers
      generalize made : (lexeme first (more ++ rest)).at
        ((Position.start.advance front).advance gap) = head at *
      have ordered : head.offset ≤ head.stop := Nat.le_add_right _ _
      have behind : ∀ t ∈ head :: tokens, head.offset ≤ t.offset :=
        List.forall_mem_cons.mpr ⟨Nat.le_refl _, fun t member =>
          Nat.le_trans ordered ((List.pairwise_cons.mp ascending).1 t member)⟩
      have blanks := isBlank_of_uncovered offset behind (uncommented head List.mem_cons_self)
      have whole : front ++ (gap ++ first :: (more ++ rest)) =
          front ++ (gap ++ first :: more) ++ rest := by
        simp only [List.append_assoc, List.cons_append]
      have settled : first = '"' → IsSettledLiteral (first :: more) rest := by
        intro quote
        have literal := literals head List.mem_cons_self (by rw [← made, quote]; rfl)
        rw [span, stop, whole, List.drop_left] at literal
        exact literal
      have onward : IsPlain rest := by
        rw [whole] at uncommented literals
        refine inductionHypothesis (front ++ (gap ++ first :: more))
          (Position.advance_append _ _ _).symm ?_
          fun t member => literals t (List.mem_cons_of_mem _ member)
        intro t member position before after
        rw [← stop] at after
        refine (uncommented t (List.mem_cons_of_mem _ member) position before ?_).imp_right
          fun covered => (covered_cons.mp covered).resolve_left
            fun within => absurd within.2 (Nat.not_lt.mpr after)
        rw [List.length_append] at offset
        omega
      exact IsPlain.blanks blanks (.lexeme starts covers settled onward)

/-- The normal form of a plain workflow has its tokens, but for the semicolons that directly
follow another one. -/
theorem keepsTokens_of_plain {workflow : String} (plain : IsPlainWorkflow workflow) :
    KeepsTokens workflow := by
  have text : IsPlain workflow.toList :=
    (scan_tokensFrom Position.start workflow.toList).isPlain [] rfl
      (fun t member offset before _ => plain.uncommented t member offset before) plain.literals
  have same : (tokenize (normalWorkflow workflow)).map Token.shape =
      shapes (normalText workflow.toList) := by
    rw [normalWorkflow_eq, tokenize, String.toList_ofList, shapes]
  rw [KeepsTokens, same, shapes_normalText, text.shapes_tidy.1]
  rfl

/-- A workflow with a string literal, a few semicolons too many, and a comment at its end. -/
def loop : String :=
  "while true \x7b\n  Say(\"a b;\");;\n ;\tRest( );\n\x7d // over"

theorem keepsTokens_of_plain_loop : IsPlainWorkflow loop ∧ KeepsTokens loop :=
  ⟨by decide +kernel, keepsTokens_of_plain (by decide +kernel)⟩

/-- Tokens do not stay behind a comment, with more than one blank in a literal, or behind a
literal that is not closed. -/
theorem not_keepsTokens_commented :
    ¬KeepsTokens "// first\nthen" ∧ ¬KeepsTokens "\"a  b\"" ∧ ¬KeepsTokens "\"open\nthen" := by
  decide +kernel

end Vivarium.Source
