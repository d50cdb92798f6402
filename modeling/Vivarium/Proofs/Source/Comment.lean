import Vivarium.Proofs.Source.MutedTokens

/-!
# Comments

What a comment is, the lexer says: it skips the gap in front of a token, and the comments
of a text are the comments of its gaps.  A text without its comments has the same lexemes
and the same blanks and line breaks between them.  An empty comment is still a comment,
so that two texts that only differ in the characters of their comments are the same once
their comments are emptied.

The reader that only knows its mode finds the same comments, although it does not see
where a gap starts: a muted text is the text with empty comments.

Main definitions:

* `markGap`, `markComments`: a text with a mark in place of each comment;
* `emptyComments`, `dropComments`: a source with empty comments, and one without any.

Main statements:

* `markComments_slashes`: muting empties the comments;
* `dropComments_emptyComments`: what a comment says does not matter once it is dropped.
-/

namespace Vivarium.Source

open Vivarium.Text (isBlank)

/-- The gap in front of the next token, with the mark in place of each of its comments.
The flag tells whether a comment is open; a line break closes it. -/
def markGap (mark : List Char) : Bool → List Char → List Char
  | _, [] => []
  | true, c :: rest => if c = '\n' then c :: markGap mark false rest else markGap mark true rest
  | false, c :: rest =>
      if isBlank c then c :: markGap mark false rest
      else if c = '/' && rest.head? = some '/' then mark ++ markGap mark true rest
      else []

/-- A text with the mark in place of each comment. -/
def markComments (mark : List Char) (text : List Char) : List Char :=
  match _next : text.drop (gapLength false text) with
  | [] => markGap mark false text
  | first :: rest =>
      let more := (lexeme first rest).more
      markGap mark false text ++ first :: (rest.take more ++ markComments mark (rest.drop more))
termination_by text.length
decreasing_by
  have shorter : (text.drop (gapLength false text)).length = rest.length + 1 := by
    rw [_next, List.length_cons]
  rw [List.length_drop] at *
  omega

/-- A source with the two slashes of each comment, but nothing behind them. -/
def emptyComments (source : String) : String :=
  String.ofList (markComments ['/', '/'] source.toList)

/-- A source without its comments. -/
def dropComments (source : String) : String := String.ofList (markComments [] source.toList)

/-! ## Gaps -/

section Gap

variable (mark : List Char)

theorem markGap_solid {text : List Char} (starts : gapLength false text = 0) :
    markGap mark false text = [] := by
  cases text with
  | nil => rfl
  | cons c rest =>
      rw [gapLength] at starts
      rw [markGap]
      split at starts
      · cases starts
      · split at starts
        · cases starts
        · rename_i notBlank opensNot
          rw [if_neg notBlank, if_neg opensNot]

theorem markGap_blank {c : Char} (blank : isBlank c = true) (rest : List Char) :
    markGap mark false (c :: rest) = c :: markGap mark false rest := by
  rw [markGap, if_pos blank]

theorem markGap_comment {body behind : List Char} (noBreak : '\n' ∉ body)
    (ends : EndsLine behind) :
    markGap mark false ('/' :: '/' :: (body ++ behind)) = mark ++ markGap mark false behind := by
  have inside : markGap mark true (body ++ behind) = markGap mark false behind := by
    induction body with
    | nil => rcases ends with rfl | ⟨rest, rfl⟩ <;> rfl
    | cons c body inductionHypothesis =>
        obtain ⟨other, noBreak⟩ := not_or.mp (mt List.mem_cons.mpr noBreak)
        rw [List.cons_append, markGap, if_neg (Ne.symm other), inductionHypothesis noBreak]
  have slashes : markGap mark false ('/' :: '/' :: (body ++ behind)) =
      mark ++ markGap mark true (body ++ behind) := rfl
  rw [slashes, inside]

/-- Muting changes no gap but for the characters of its comments. -/
theorem markGap_mute (text : List Char) :
    markGap mark false (Mode.mute .code text) = markGap mark false text := by
  induction text using gap_induction with
  | none text nothing =>
      rw [markGap_solid mark nothing, markGap_solid mark]
      rw [gapLength_mute, nothing]
      rfl
  | blank c rest isBlank inductionHypothesis =>
      rw [Mode.mute_code_cons, step_blank isBlank, markGap_blank mark isBlank,
        markGap_blank mark isBlank, inductionHypothesis]
  | comment body behind noBreak ends inductionHypothesis =>
      have slashes := markGap_comment mark List.not_mem_nil ends.mute
      rw [List.nil_append] at slashes
      rw [mute_comment noBreak ends, slashes, markGap_comment mark noBreak ends,
        inductionHypothesis]

/-- With the slashes for a mark a gap is the muted gap. -/
theorem markGap_slashes (text : List Char) :
    markGap ['/', '/'] false text = Mode.mute .code (text.take (gapLength false text)) := by
  induction text using gap_induction with
  | none text nothing => rw [markGap_solid _ nothing, nothing]; rfl
  | blank c rest isBlank inductionHypothesis =>
      rw [markGap_blank _ isBlank, gapLength_blank isBlank, List.take_succ_cons,
        Mode.mute_code_cons, step_blank isBlank, inductionHypothesis]
  | comment body behind noBreak ends inductionHypothesis =>
      rw [markGap_comment _ noBreak ends, gapLength_comment noBreak ends,
        Nat.add_comm _ body.length, List.take_succ_cons, List.take_succ_cons,
        List.take_length_add_append, mute_comment noBreak (ends.take _), inductionHypothesis]
      rfl

end Gap

/-! ## Texts -/

theorem markComments_eq_gap {mark text : List Char}
    (nothing : text.drop (gapLength false text) = []) :
    markComments mark text = markGap mark false text := by
  rw [markComments]
  split
  · rfl
  · rename_i something
    rw [nothing] at something
    cases something

theorem markComments_eq_append {mark text : List Char} {first : Char} {rest : List Char}
    (next : text.drop (gapLength false text) = first :: rest) :
    markComments mark text =
      markGap mark false text ++ first :: (rest.take (lexeme first rest).more ++
        markComments mark (rest.drop (lexeme first rest).more)) := by
  rw [markComments]
  split
  · rename_i nothing
    rw [nothing] at next
    cases next
  · rename_i next'
    obtain ⟨rfl, rfl⟩ := List.cons.inj (next'.symm.trans next)
    rfl

/-- Muting changes nothing but the characters of comments. -/
theorem markComments_mute (mark text : List Char) :
    markComments mark (Mode.mute .code text) = markComments mark text := by
  have scan := scan_tokensFrom Position.start text
  generalize Position.start = place at scan
  generalize tokensFrom place text = tokens at scan
  induction scan with
  | @done place gap fills =>
      have nothing : gap.drop (gapLength false gap) = [] := by rw [fills, List.drop_length]
      have nothingThere := drop_gapLength_mute gap
      rw [nothing] at nothingThere
      rw [markComments_eq_gap nothing, markComments_eq_gap nothingThere, markGap_mute]
  | @token place gap more rest first tokens passes starts covers others inductionHypothesis =>
      have next : (gap ++ first :: (more ++ rest)).drop
          (gapLength false (gap ++ first :: (more ++ rest))) = first :: (more ++ rest) := by
        rw [passes, List.drop_left]
      have nextThere := drop_gapLength_mute (gap ++ first :: (more ++ rest))
      rw [next, Mode.mute_code_cons] at nextThere
      have lexemeThere := (lexeme_keeps starts).mute_append
      rw [covers, List.take_left, List.drop_left] at lexemeThere
      rw [markComments_eq_append next, markComments_eq_append nextThere, lexeme_mute, covers,
        lexemeThere, List.take_left, List.take_left, List.drop_left, List.drop_left,
        inductionHypothesis, markGap_mute]

/-- Muting empties the comments. -/
theorem markComments_slashes (text : List Char) :
    markComments ['/', '/'] text = Mode.mute .code text := by
  have scan := scan_tokensFrom Position.start text
  generalize Position.start = place at scan
  generalize tokensFrom place text = tokens at scan
  induction scan with
  | @done place gap fills =>
      have nothing : gap.drop (gapLength false gap) = [] := by rw [fills, List.drop_length]
      rw [markComments_eq_gap nothing, markGap_slashes, fills, List.take_length]
  | @token place gap more rest first tokens passes starts covers others inductionHypothesis =>
      have next : (gap ++ first :: (more ++ rest)).drop
          (gapLength false (gap ++ first :: (more ++ rest))) = first :: (more ++ rest) := by
        rw [passes, List.drop_left]
      have resumes := (Mode.resumes_code _).behind_gap passes
      have lexemeThere := (lexeme_keeps starts).mute_append
      rw [covers, List.take_left, List.drop_left] at lexemeThere
      rw [markComments_eq_append next, covers, List.take_left, List.drop_left,
        inductionHypothesis, markGap_slashes, passes, List.take_left, Mode.mute_append,
        resumes.mute, Mode.mute_code_cons, lexemeThere]

theorem emptyComments_eq (source : String) :
    emptyComments source = String.ofList (Mode.mute .code source.toList) := by
  rw [emptyComments, markComments_slashes]

/-- What a comment says does not matter once it is dropped. -/
theorem dropComments_emptyComments (source : String) :
    dropComments (emptyComments source) = dropComments source := by
  rw [emptyComments_eq, dropComments, String.toList_ofList, markComments_mute, dropComments]

/-- Empty comments stay as they are. -/
theorem emptyComments_emptyComments (source : String) :
    emptyComments (emptyComments source) = emptyComments source := by
  rw [emptyComments_eq, emptyComments_eq, String.toList_ofList, Mode.mute_mute]

end Vivarium.Source
