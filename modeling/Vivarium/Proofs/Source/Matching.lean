import Vivarium.Proofs.Source.Sections

/-!
# Braces and their partners

Where a run of tokens goes down below a depth there is a first brace that takes it
there, and what stands in front of that brace is balanced.  So in a balanced run every
opening brace has its partner inside of the run, and the reader, which looks for the
partner with a count of its own, finds it: the offset at which an unclosed block would
end is never asked for.  The sections that it finds are those that stand in the run
outside of all blocks, with a header and a block of their own, in their order.

Main definitions:

* `Section.IsMatched`: a section in a run of tokens whose block ends at the partner of
  its opening brace;
* `HasBlock`: tokens that go on with a block before the header ends.

Main statements:

* `exists_closing`: the brace that takes a run below a depth;
* `balanced_of_braceErrors`: without complaints about braces a run is balanced;
* `isMatched_of_mem_sections`, `mem_sections_of_isMatched`, `keywords_sections_sublist`:
  the sections of a balanced run;
* `sections_limit`, `settings_limit`: no block of a balanced run is cut off.
-/

namespace Vivarium.Source

/-! ## Single tokens -/

/-- No brace both opens and closes a block. -/
theorem Token.closesBlock_of_opensBlock {t : Token} (opens : t.opensBlock = true) :
    t.closesBlock = false := by
  rw [Bool.eq_false_iff]
  intro closes
  rw [Token.opensBlock_of_closesBlock closes] at opens
  cases opens

theorem Token.brace_cases (t : Token) :
    t.opensBlock = true ∨ t.closesBlock = true ∨ t.IsPlain := by
  by_cases opens : t.opensBlock = true
  · exact Or.inl opens
  · by_cases closes : t.closesBlock = true
    · exact Or.inr (Or.inl closes)
    · exact Or.inr (Or.inr ⟨Bool.eq_false_iff.mpr opens, Bool.eq_false_iff.mpr closes⟩)

/-- Only punctuation opens or closes a block. -/
theorem Token.isPlain_of_kind {t : Token} (kind : t.kind ≠ .punctuation) : t.IsPlain := by
  constructor <;>
  · rw [Bool.eq_false_iff]
    intro brace
    exact kind (beq_iff_eq.mp (Bool.and_eq_true_iff.mp brace).1)

theorem Token.isPlain_of_isKeyword {t : Token} {text : String}
    (keyword : t.isKeyword text = true) : t.IsPlain :=
  isPlain_of_kind (by rw [beq_iff_eq.mp (Bool.and_eq_true_iff.mp keyword).1]; decide)

theorem kind_of_startsSection {t : Token} (starts : startsSection t = true) :
    t.kind = .keyword :=
  of_decide_eq_true (Bool.and_eq_true_iff.mp starts).1

theorem isPlain_of_startsSection {t : Token} (starts : startsSection t = true) : t.IsPlain :=
  Token.isPlain_of_kind (by rw [kind_of_startsSection starts]; decide)

/-- A section keyword is no part of a header. -/
theorem endsHeader_of_startsSection {t : Token} (starts : startsSection t = true) :
    t.endsHeader = true := by
  obtain ⟨kind, word⟩ := Bool.and_eq_true_iff.mp starts
  have listed : headerEnds.contains t.text = true := by
    rw [headerEnds, List.contains_cons, word, Bool.or_true]
  rw [Token.endsHeader, kind, listed]
  exact Bool.or_true _

section Steps

variable {t : Token} (depth : Nat) (rest : List Token)

theorem nesting_of_opens (opens : t.opensBlock = true) :
    nesting depth (t :: rest) = nesting (depth + 1) rest := by
  rw [nesting, Token.closesBlock_of_opensBlock opens, opens]
  rfl

theorem nesting_of_closes (closes : t.closesBlock = true) :
    nesting (depth + 1) (t :: rest) = nesting depth rest := by
  rw [nesting, if_pos closes, if_neg (Nat.succ_ne_zero depth), Nat.add_one_sub_one]

theorem nesting_zero_of_closes (closes : t.closesBlock = true) :
    nesting 0 (t :: rest) = none := by
  rw [nesting, if_pos closes, if_pos rfl]

theorem nesting_of_isPlain (plain : t.IsPlain) :
    nesting depth (t :: rest) = nesting depth rest := by
  rw [nesting, plain.1, plain.2]
  rfl

end Steps

/-- What is balanced does not count. -/
theorem nesting_append_of_balanced {front : List Token} (balanced : Balanced front)
    (depth : Nat) (rest : List Token) : nesting depth (front ++ rest) = nesting depth rest := by
  have passed := nesting_add balanced depth
  rw [Nat.zero_add] at passed
  rw [nesting_append, passed]
  rfl

/-! ## Partners -/

/-- A run that goes down to a depth below the one where it starts does so at a closing
brace.  In front of this brace it closes all blocks that were open above the lower depth
and those it opened. -/
theorem exists_closing {depth level reached : Nat} {tokens : List Token}
    (counted : nesting (level + (depth + 1)) tokens = some reached) (lower : reached ≤ depth) :
    ∃ inside closing behind, tokens = inside ++ closing :: behind ∧
      nesting level inside = some 0 ∧ closing.closesBlock = true ∧
      nesting depth behind = some reached := by
  induction tokens generalizing level with
  | nil =>
      have same : level + (depth + 1) = reached := Option.some.inj counted
      omega
  | cons t rest inductionHypothesis =>
      rcases t.brace_cases with opens | closes | plain
      · rw [nesting_of_opens _ _ opens, Nat.add_right_comm] at counted
        obtain ⟨inside, closing, behind, rfl, balanced, closes, after⟩ :=
          inductionHypothesis counted
        refine ⟨t :: inside, closing, behind, rfl, ?_, closes, after⟩
        rw [nesting_of_opens _ _ opens, balanced]
      · cases level with
        | zero =>
            rw [Nat.zero_add, nesting_of_closes _ _ closes] at counted
            exact ⟨[], t, rest, rfl, rfl, closes, counted⟩
        | succ outer =>
            rw [Nat.add_right_comm, nesting_of_closes _ _ closes] at counted
            obtain ⟨inside, closing, behind, rfl, balanced, closes', after⟩ :=
              inductionHypothesis counted
            refine ⟨t :: inside, closing, behind, rfl, ?_, closes', after⟩
            rw [nesting_of_closes _ _ closes, balanced]
      · rw [nesting_of_isPlain _ _ plain] at counted
        obtain ⟨inside, closing, behind, rfl, balanced, closes, after⟩ :=
          inductionHypothesis counted
        refine ⟨t :: inside, closing, behind, rfl, ?_, closes, after⟩
        rw [nesting_of_isPlain _ _ plain, balanced]

/-- Where one block is open and a run closes it, the run starts with the inside of the
block and its closing brace. -/
theorem exists_closing_of_one {tokens : List Token} (counted : nesting 1 tokens = some 0) :
    ∃ inside closing behind, tokens = inside ++ closing :: behind ∧ Balanced inside ∧
      closing.closesBlock = true ∧ Balanced behind :=
  exists_closing (show nesting (0 + (0 + 1)) tokens = some 0 from counted) (Nat.le_refl 0)

/-- Braces that all find a partner are balanced, the open ones in front included. -/
theorem nesting_of_unmatchedBraces {pending tokens : List Token}
    (matched : unmatchedBraces pending tokens = ([], [])) :
    nesting pending.length tokens = some 0 := by
  induction tokens generalizing pending with
  | nil =>
      obtain rfl : pending = [] := List.reverse_eq_nil_iff.mp (Prod.mk.inj matched).2
      rfl
  | cons t rest inductionHypothesis =>
      rcases t.brace_cases with opens | closes | plain
      · rw [nesting_of_opens _ _ opens]
        have others : unmatchedBraces (t :: pending) rest = ([], []) := by
          simpa only [unmatchedBraces, if_pos opens] using matched
        exact inductionHypothesis others
      · have opensNot := Token.opensBlock_of_closesBlock closes
        cases pending with
        | nil => simp [unmatchedBraces, opensNot, closes] at matched
        | cons opening outer =>
            rw [List.length_cons, nesting_of_closes _ _ closes]
            have others : unmatchedBraces outer rest = ([], []) := by
              simpa [unmatchedBraces, opensNot, closes] using matched
            exact inductionHypothesis others
      · rw [nesting_of_isPlain _ _ plain]
        refine inductionHypothesis ?_
        simpa [unmatchedBraces, plain.1, plain.2] using matched

/-- Without complaints about braces, the tokens are balanced. -/
theorem balanced_of_braceErrors {tokens : List Token} (flawless : braceErrors tokens = []) :
    Balanced tokens := by
  obtain ⟨closing, opening⟩ := List.append_eq_nil_iff.mp flawless
  exact nesting_of_unmatchedBraces
    (Prod.ext (List.map_eq_nil_iff.mp closing) (List.map_eq_nil_iff.mp opening))

/-! ## Headers -/

/-- A block follows before the header ends. -/
def HasBlock (tokens : List Token) : Prop :=
  ∃ header opening after, tokens = header ++ opening :: after ∧
    (∀ t ∈ header, t.IsHeading) ∧ opening.opensBlock = true

/-- Nothing in front of a found block ends the header. -/
theorem heading_of_splitHeader? {tokens header after : List Token} {brace : Token}
    (found : splitHeader? tokens = some (header, brace, after)) : ∀ t ∈ header, t.IsHeading := by
  induction tokens generalizing header with
  | nil => cases found
  | cons t rest inductionHypothesis =>
      rw [splitHeader?] at found
      split at found
      · cases found
        exact List.forall_mem_nil _
      · rename_i opensNot
        split at found
        · cases found
        · rename_i goesOn
          obtain ⟨⟨others, brace', after'⟩, inRest, parts⟩ := Option.map_eq_some_iff.mp found
          cases parts
          refine List.forall_mem_cons.mpr ⟨?_, inductionHypothesis inRest⟩
          exact ⟨Bool.eq_false_iff.mpr opensNot, Bool.eq_false_iff.mpr goesOn⟩

/-- Headers hold no braces. -/
theorem balanced_of_heading {header : List Token} (heading : ∀ t ∈ header, t.IsHeading) :
    Balanced header :=
  Balanced.of_plain fun t member => (heading t member).isPlain

/-- Behind the brace of a header one block more is open. -/
theorem nesting_of_header {header : List Token} (heading : ∀ t ∈ header, t.IsHeading)
    {opening : Token} (opens : opening.opensBlock = true) (depth : Nat) (after : List Token) :
    nesting depth (header ++ opening :: after) = nesting (depth + 1) after := by
  rw [nesting_append_of_balanced (balanced_of_heading heading), nesting_of_opens _ _ opens]

/-! ## Sections of a balanced run -/

/-- A section as it stands in a run of tokens, with so many blocks open in front of its
keyword.  Its block ends at the partner of its opening brace. -/
structure Section.IsMatched (s : Section) (tokens : List Token) (depth : Nat) : Prop where
  heading : ∀ t ∈ s.header, t.IsHeading
  balanced : Balanced s.block.inside
  inOrder : ∃ front opening closing behind,
    tokens = front ++ s.keyword :: (s.header ++ opening :: (s.block.inside ++ closing :: behind)) ∧
    nesting 0 front = some depth ∧
    opening.opensBlock = true ∧ s.block.start = opening.stop ∧
    closing.closesBlock = true ∧ s.block.stop = closing.offset

namespace Section.IsMatched

variable {s : Section} {tokens : List Token} {depth : Nat}

/-- A section of a part of a run is one of the whole run, in so many more blocks as are
open in front of the part. -/
theorem within (whole : s.IsMatched tokens depth) {before : List Token} {outer : Nat}
    (opened : nesting 0 before = some outer) (after : List Token) :
    s.IsMatched (before ++ (tokens ++ after)) (depth + outer) := by
  obtain ⟨heading, balanced, front, opening, closing, behind, rfl, counted, block⟩ := whole
  refine ⟨heading, balanced, before ++ front, opening, closing, behind ++ after, ?_, ?_, block⟩
  · simp only [List.append_assoc, List.cons_append]
  · have further := nesting_add counted outer
    rw [Nat.zero_add] at further
    rw [nesting_append, opened]
    exact further

/-- A section stays one behind a balanced run. -/
theorem behind (whole : s.IsMatched tokens depth) {passed : List Token}
    (balanced : Balanced passed) : s.IsMatched (passed ++ tokens) depth := by
  have further := whole.within balanced []
  rwa [List.append_nil] at further

/-- A section stays one behind a token that is no brace. -/
theorem behind_isPlain (whole : s.IsMatched tokens depth) {t : Token} (plain : t.IsPlain) :
    s.IsMatched (t :: tokens) depth := by
  have alone : Balanced [t] := nesting_of_isPlain 0 [] plain
  exact whole.behind alone

/-- A section stays one behind a block. -/
theorem behind_block (whole : s.IsMatched tokens depth) {opening closing : Token}
    {inside : List Token} (opens : opening.opensBlock = true) (balanced : Balanced inside)
    (closes : closing.closesBlock = true) :
    s.IsMatched (opening :: (inside ++ closing :: tokens)) depth := by
  have further := whole.behind
    (balanced.enclose opens (Token.closesBlock_of_opensBlock opens) closes)
  simpa only [List.cons_append, List.append_assoc, List.nil_append] using further

theorem inside_isInfix (whole : s.IsMatched tokens depth) : s.block.inside <:+: tokens := by
  obtain ⟨-, -, front, opening, closing, behind, rfl, -⟩ := whole
  refine ⟨front ++ s.keyword :: (s.header ++ [opening]), closing :: behind, ?_⟩
  simp only [List.append_assoc, List.cons_append, List.nil_append]

/-- A section in the block of another one stands one block deeper. -/
theorem nested (whole : s.IsMatched tokens depth) (plain : s.keyword.IsPlain) {inner : Section}
    {level : Nat} (within : inner.IsMatched s.block.inside level) :
    inner.IsMatched tokens (level + (depth + 1)) := by
  obtain ⟨heading, -, front, opening, closing, behind, rfl, counted, opens, -⟩ := whole
  have opened : nesting 0 (front ++ s.keyword :: (s.header ++ [opening])) = some (depth + 1) := by
    rw [nesting_append, counted, Option.bind_some, nesting_of_isPlain _ _ plain,
      nesting_of_header heading opens]
    rfl
  have further := within.within opened (closing :: behind)
  simpa only [List.append_assoc, List.cons_append, List.nil_append] using further

/-- A section outside of all blocks starts a run, or it stands behind a token that is no
brace, or behind a block. -/
theorem cases_head {t : Token} {rest : List Token} (whole : s.IsMatched (t :: rest) 0) :
    (s.keyword = t ∧ ∃ opening closing behind,
      rest = s.header ++ opening :: (s.block.inside ++ closing :: behind) ∧
      opening.opensBlock = true ∧ s.block.start = opening.stop ∧
      closing.closesBlock = true ∧ s.block.stop = closing.offset) ∨
    (t.IsPlain ∧ s.IsMatched rest 0) ∨
    (t.opensBlock = true ∧ ∃ inside closing behind, rest = inside ++ closing :: behind ∧
      Balanced inside ∧ closing.closesBlock = true ∧ s.IsMatched behind 0) := by
  obtain ⟨heading, balanced, front, opening, closing, behind, divided, counted, block⟩ := whole
  cases front with
  | nil =>
      obtain ⟨same, rfl⟩ := List.cons.inj divided
      exact Or.inl ⟨same.symm, opening, closing, behind, rfl, block⟩
  | cons first front =>
      rw [List.cons_append] at divided
      obtain ⟨rfl, rfl⟩ := List.cons.inj divided
      rcases t.brace_cases with opens | closes | plain
      · rw [nesting_of_opens _ _ opens] at counted
        obtain ⟨inside, closing', onward, rfl, inBlock, closes, counted⟩ :=
          exists_closing_of_one counted
        refine Or.inr (Or.inr ⟨opens, inside, closing', _, ?_, inBlock, closes,
          heading, balanced, onward, opening, closing, behind, rfl, counted, block⟩)
        rw [List.append_assoc, List.cons_append]
      · rw [nesting_zero_of_closes _ closes] at counted
        cases counted
      · rw [nesting_of_isPlain _ _ plain] at counted
        exact Or.inr (Or.inl ⟨plain, heading, balanced, front, opening, closing, behind, rfl,
          counted, block⟩)

/-- A section behind a header with a block stands behind the block. -/
theorem behind_header {header after : List Token} {opening : Token}
    (whole : s.IsMatched (header ++ opening :: after) 0) (starts : startsSection s.keyword = true)
    (heading : ∀ t ∈ header, t.IsHeading) (opens : opening.opensBlock = true) :
    ∃ inside closing behind, after = inside ++ closing :: behind ∧ Balanced inside ∧
      closing.closesBlock = true ∧ s.IsMatched behind 0 := by
  induction header with
  | nil =>
      rcases whole.cases_head with ⟨rfl, -⟩ | ⟨plain, -⟩ | ⟨-, block⟩
      · rw [(isPlain_of_startsSection starts).1] at opens
        cases opens
      · rw [plain.1] at opens
        cases opens
      · exact block
  | cons t others inductionHypothesis =>
      obtain ⟨here, others⟩ := List.forall_mem_cons.mp heading
      rcases whole.cases_head with ⟨rfl, -⟩ | ⟨-, onward⟩ | ⟨opens', -⟩
      · have ends := endsHeader_of_startsSection starts
        rw [here.2] at ends
        cases ends
      · exact inductionHypothesis onward others
      · rw [here.1] at opens'
        cases opens'

end Section.IsMatched

/-- A token in a balanced run that opens no block is no brace. -/
theorem Balanced.isPlain_head {t : Token} {rest : List Token} (balanced : Balanced (t :: rest))
    (opensNot : ¬t.opensBlock = true) : t.IsPlain := by
  rcases t.brace_cases with opens | closes | plain
  · exact absurd opens opensNot
  · rw [Balanced, nesting_zero_of_closes _ closes] at balanced
    cases balanced
  · exact plain

/-- The block behind an opening brace of a balanced run. -/
theorem Balanced.exists_block {opening : Token} {rest : List Token}
    (balanced : Balanced (opening :: rest)) (opens : opening.opensBlock = true) :
    ∃ inside closing behind, rest = inside ++ closing :: behind ∧ Balanced inside ∧
      closing.closesBlock = true ∧ Balanced behind := by
  rw [Balanced, nesting_of_opens _ _ opens] at balanced
  exact exists_closing_of_one balanced

/-- A balanced run goes on balanced behind a token that is no brace. -/
theorem Balanced.tail {t : Token} {rest : List Token} (balanced : Balanced (t :: rest))
    (plain : t.IsPlain) : Balanced rest :=
  (nesting_of_isPlain 0 rest plain).symm.trans balanced

/-- The block behind a header of a balanced run. -/
theorem Balanced.exists_block_of_header {header after : List Token} {opening : Token}
    (balanced : Balanced (header ++ opening :: after)) (heading : ∀ t ∈ header, t.IsHeading)
    (opens : opening.opensBlock = true) :
    ∃ inside closing behind, after = inside ++ closing :: behind ∧ Balanced inside ∧
      closing.closesBlock = true ∧ Balanced behind := by
  rw [Balanced, nesting_of_header heading opens] at balanced
  exact exists_closing_of_one balanced

/-- The sections of a balanced run start with section keywords, stand outside of all
blocks and end where their blocks are closed. -/
theorem isMatched_of_mem_sections {limit : Nat} {tokens : List Token} (balanced : Balanced tokens)
    {s : Section} (member : s ∈ sections limit tokens) :
    startsSection s.keyword = true ∧ s.IsMatched tokens 0 := by
  fun_induction sections limit tokens with
  | case1 => cases member
  | case2 t rest opens _ inductionHypothesis =>
      obtain ⟨inside, closing, behind, rfl, inBlock, closes, onward⟩ := balanced.exists_block opens
      rw [splitBlock_of_balanced inBlock closes] at inductionHypothesis member
      obtain ⟨starts, whole⟩ := inductionHypothesis onward member
      exact ⟨starts, whole.behind_block opens inBlock closes⟩
  | case3 t rest opensNot starts header brace after found _ _ inductionHypothesis =>
      obtain ⟨rfl, opens⟩ := splitHeader?_eq_some found
      have heading := heading_of_splitHeader? found
      have plain := balanced.isPlain_head opensNot
      obtain ⟨inside, closing, behind, rfl, inBlock, closes, onward⟩ :=
        (balanced.tail plain).exists_block_of_header heading opens
      rw [splitBlock_of_balanced inBlock closes] at inductionHypothesis member
      rcases List.mem_cons.mp member with rfl | later
      · refine ⟨starts, heading, inBlock, [], brace, closing, behind, rfl, rfl, ?_⟩
        exact ⟨opens, rfl, closes, rfl⟩
      · obtain ⟨starts', whole⟩ := inductionHypothesis onward later
        have behindHeader := (whole.behind_block opens inBlock closes).behind
          (balanced_of_heading heading)
        exact ⟨starts', behindHeader.behind_isPlain plain⟩
  | case4 t rest opensNot _ _ inductionHypothesis =>
      have plain := balanced.isPlain_head opensNot
      obtain ⟨starts', whole⟩ := inductionHypothesis (balanced.tail plain) member
      exact ⟨starts', whole.behind_isPlain plain⟩
  | case5 t rest opensNot _ inductionHypothesis =>
      have plain := balanced.isPlain_head opensNot
      obtain ⟨starts', whole⟩ := inductionHypothesis (balanced.tail plain) member
      exact ⟨starts', whole.behind_isPlain plain⟩

/-- Every section that stands in a run outside of all blocks is found. -/
theorem mem_sections_of_isMatched (limit : Nat) {tokens : List Token} {s : Section}
    (starts : startsSection s.keyword = true) (whole : s.IsMatched tokens 0) :
    s ∈ sections limit tokens := by
  have heading := whole.heading
  have balanced := whole.balanced
  fun_induction sections limit tokens with
  | case1 =>
      obtain ⟨-, -, front, opening, closing, behind, divided, -⟩ := whole
      cases front <;> cases divided
  | case2 t rest opens _ inductionHypothesis =>
      rcases whole.cases_head with ⟨rfl, -⟩ | ⟨plain, -⟩ |
        ⟨-, inside, closing, behind, rfl, inBlock, closes, onward⟩
      · rw [(isPlain_of_startsSection starts).1] at opens
        cases opens
      · rw [plain.1] at opens
        cases opens
      · rw [splitBlock_of_balanced inBlock closes] at inductionHypothesis ⊢
        exact inductionHypothesis onward
  | case3 t rest opensNot starts' header brace after found _ _ inductionHypothesis =>
      rcases whole.cases_head with
        ⟨rfl, opening, closing, behind, rfl, opens, start, closes, stop⟩ | ⟨-, onward⟩ | ⟨opens, -⟩
      · rw [splitHeader?_of_heading heading opens] at found
        obtain ⟨rfl, rfl, rfl⟩ : s.header = header ∧ opening = brace ∧
            s.block.inside ++ closing :: behind = after := by
          simpa using found
        rw [splitBlock_of_balanced balanced closes, ← start, ← stop]
        exact List.mem_cons_self
      · obtain ⟨rfl, opens⟩ := splitHeader?_eq_some found
        obtain ⟨inside, closing, behind, rfl, inBlock, closes, onward⟩ :=
          onward.behind_header starts (heading_of_splitHeader? found) opens
        rw [splitBlock_of_balanced inBlock closes] at inductionHypothesis ⊢
        exact List.mem_cons_of_mem _ (inductionHypothesis onward)
      · exact absurd opens opensNot
  | case4 t rest opensNot starts' missing inductionHypothesis =>
      rcases whole.cases_head with ⟨rfl, opening, closing, behind, rfl, opens, -⟩ | ⟨-, onward⟩ |
        ⟨opens, -⟩
      · rw [splitHeader?_of_heading heading opens] at missing
        cases missing
      · exact inductionHypothesis onward
      · exact absurd opens opensNot
  | case5 t rest opensNot startsNot inductionHypothesis =>
      rcases whole.cases_head with ⟨rfl, -⟩ | ⟨-, onward⟩ | ⟨opens, -⟩
      · exact absurd starts startsNot
      · exact inductionHypothesis onward
      · exact absurd opens opensNot

/-- The sections of a run come in the order of their keywords. -/
theorem keywords_sections_sublist (limit : Nat) (tokens : List Token) :
    ((sections limit tokens).map (·.keyword)).Sublist tokens := by
  fun_induction sections limit tokens with
  | case1 => exact List.Sublist.slnil
  | case2 t rest _ _ inductionHypothesis =>
      exact (inductionHypothesis.trans (splitBlock_rest_isSuffix limit t rest).sublist).cons t
  | case3 t rest _ _ header brace after found _ _ inductionHypothesis =>
      obtain ⟨rfl, -⟩ := splitHeader?_eq_some found
      have inAfter := inductionHypothesis.trans (splitBlock_rest_isSuffix limit brace after).sublist
      exact ((inAfter.cons brace).trans (List.sublist_append_right header _)).cons_cons t
  | case4 t rest _ _ _ inductionHypothesis => exact inductionHypothesis.cons t
  | case5 t rest _ _ inductionHypothesis => exact inductionHypothesis.cons t

/-! ## Blocks that are never cut off -/

/-- All blocks of a balanced run are closed, so that the offset where an unclosed block
would end plays no part in reading its sections. -/
theorem sections_limit {tokens : List Token} (balanced : Balanced tokens) (limit other : Nat) :
    sections limit tokens = sections other tokens := by
  fun_induction sections limit tokens with
  | case1 => rw [sections]
  | case2 t rest opens _ inductionHypothesis =>
      obtain ⟨inside, closing, behind, rfl, inBlock, closes, onward⟩ := balanced.exists_block opens
      rw [splitBlock_of_balanced inBlock closes] at inductionHypothesis ⊢
      rw [inductionHypothesis onward, sections, if_pos opens,
        splitBlock_of_balanced inBlock closes]
  | case3 t rest opensNot starts header brace after found _ _ inductionHypothesis =>
      obtain ⟨rfl, opens⟩ := splitHeader?_eq_some found
      have heading := heading_of_splitHeader? found
      obtain ⟨inside, closing, behind, rfl, inBlock, closes, onward⟩ :=
        (balanced.tail (balanced.isPlain_head opensNot)).exists_block_of_header heading opens
      rw [splitBlock_of_balanced inBlock closes] at inductionHypothesis ⊢
      rw [inductionHypothesis onward, sections_of_balanced starts heading opens inBlock closes]
  | case4 t rest opensNot starts missing inductionHypothesis =>
      rw [sections, if_neg opensNot, if_pos starts]
      split
      · rename_i found
        rw [missing] at found
        cases found
      · exact inductionHypothesis (balanced.tail (balanced.isPlain_head opensNot))
  | case5 t rest opensNot startsNot inductionHypothesis =>
      rw [inductionHypothesis (balanced.tail (balanced.isPlain_head opensNot)),
        sections, if_neg opensNot, if_neg startsNot]

/-- The value of a setting holds no braces. -/
theorem isPlain_of_continuesValue {line : Nat} {t : Token}
    (goesOn : continuesValue line t = true) : t.IsPlain := by
  simp only [continuesValue, Bool.and_eq_true, Bool.not_eq_true', Bool.or_eq_false_iff] at goesOn
  exact ⟨goesOn.1.1.2, goesOn.1.2⟩

/-- A balanced run goes on balanced behind the value of a setting. -/
theorem Balanced.dropValue {tokens : List Token} (balanced : Balanced tokens) (line : Nat) :
    Balanced (tokens.dropWhile (continuesValue line)) := by
  have value : Balanced (tokens.takeWhile (continuesValue line)) := by
    refine Balanced.of_plain fun t member => ?_
    exact isPlain_of_continuesValue (List.all_eq_true.mp List.all_takeWhile t member)
  rw [← List.takeWhile_append_dropWhile (p := continuesValue line) (l := tokens), Balanced,
    nesting_append_of_balanced value] at balanced
  exact balanced

/-- A balanced run goes on balanced behind the key of a setting and its colon. -/
theorem Balanced.tail_of_entry {t next : Token} {rest : List Token}
    (balanced : Balanced (t :: next :: rest))
    (entry : (t.isWord && next.isPunctuation ":") = true) : Balanced rest := by
  obtain ⟨word, colon⟩ := Bool.and_eq_true_iff.mp entry
  have key : t.IsPlain := by
    refine Token.isPlain_of_kind ?_
    rcases Bool.or_eq_true_iff.mp word with kind | kind <;>
    · rw [beq_iff_eq.mp kind]
      decide
  have mark : next.IsPlain := by
    have text := beq_iff_eq.mp (Bool.and_eq_true_iff.mp colon).2
    simp [Token.IsPlain, Token.opensBlock, Token.closesBlock, Token.isPunctuation, Token.is, text]
  exact (balanced.tail key).tail mark

/-- The offset where an unclosed block would end plays no part in reading the settings of
a balanced run either. -/
theorem settings_limit {tokens : List Token} (balanced : Balanced tokens) (source : List Char)
    (limit other : Nat) : settings source limit tokens = settings source other tokens := by
  fun_induction settings source limit tokens with
  | case1 => rw [settings]
  | case2 => rw [settings]
  | case3 t next rest goal _ inductionHypothesis =>
      obtain ⟨keyword, opens⟩ := Bool.and_eq_true_iff.mp goal
      have onward := balanced.tail (Token.isPlain_of_isKeyword keyword)
      obtain ⟨inside, closing, behind, rfl, inBlock, closes, onward⟩ := onward.exists_block opens
      rw [splitBlock_of_balanced inBlock closes] at inductionHypothesis ⊢
      rw [inductionHypothesis onward, settings, if_pos goal,
        splitBlock_of_balanced inBlock closes]
  | case4 t next rest noGoal entry _ value others empty inductionHypothesis =>
      have onward := (balanced.tail_of_entry entry).dropValue t.line
      rw [settings, if_neg noGoal, if_pos entry, if_pos empty]
      exact inductionHypothesis onward
  | case5 t next rest noGoal entry _ value others nonempty inductionHypothesis =>
      have onward := (balanced.tail_of_entry entry).dropValue t.line
      rw [settings, if_neg noGoal, if_pos entry, if_neg nonempty]
      exact congrArg _ (inductionHypothesis onward)
  | case6 t next rest noGoal noEntry opens _ inductionHypothesis =>
      obtain ⟨inside, closing, behind, same, inBlock, closes, onward⟩ :=
        balanced.exists_block opens
      rw [settings, if_neg noGoal, if_neg noEntry, if_pos opens]
      rw [same, splitBlock_of_balanced inBlock closes] at inductionHypothesis ⊢
      rw [splitBlock_of_balanced inBlock closes]
      exact inductionHypothesis onward
  | case7 t next rest noGoal noEntry opensNot inductionHypothesis =>
      rw [settings, if_neg noGoal, if_neg noEntry, if_neg opensNot]
      exact inductionHypothesis (balanced.tail (balanced.isPlain_head opensNot))

end Vivarium.Source
