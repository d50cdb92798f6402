import Vivarium.Proofs.Source.Mute
import Vivarium.Proofs.Source.Tokenization

/-!
# Gaps of a muted text

The lexer goes by tokens and gaps, and the reader that only knows its mode by characters.
They meet where a text resumes: there it goes on as it would in code, whatever the reader
has behind it, such as a slash that was an operator or a string literal that the line
break ended.  A gap is a run of blanks and comments, so that a text and the muted text
have the same gaps, but for the characters of comments.

Main definitions:

* `Mode.Resumes`: a text goes on as it would in code;
* `Mode.Keeps`: a piece of a text that muting leaves alone;
* `EndsLine`: what may stand behind a comment.

Main statements:

* `gap_induction`: a gap is a run of blanks and comments;
* `gapLength_mute`, `drop_gapLength_mute`: the gap of the muted text is the muted gap;
* `after_gap`: behind a gap a reader is in code.
-/

namespace Vivarium.Source

open Vivarium.Text (isBlank)

namespace Mode

/-- A text goes on as it would in code. -/
def Resumes (m : Mode) (text : List Char) : Prop :=
  ∀ c, text.head? = some c → m.step c = step .code c

theorem resumes_code (text : List Char) : Resumes .code text := fun _ _ => rfl

theorem resumes_nil (m : Mode) : Resumes m [] := by
  intro c impossible
  cases impossible

theorem Resumes.cons {m : Mode} {c : Char} {rest : List Char} (resumes : m.Resumes (c :: rest)) :
    m.step c = step .code c := resumes c rfl

theorem resumes_newline (m : Mode) (rest : List Char) : m.Resumes ('\n' :: rest) := by
  rintro c ⟨⟩
  rw [step_newline, step_newline]

/-- In front of a character of a line, a text only resumes outside of comments. -/
theorem Resumes.ne_comment {m : Mode} {c : Char} {rest : List Char}
    (resumes : m.Resumes (c :: rest)) (noBreak : c ≠ '\n') : m ≠ .comment := by
  rintro rfl
  have same := resumes.cons
  rw [step_comment noBreak] at same
  exact step_code_ne_comment c same.symm

theorem Resumes.mute {m : Mode} {text : List Char} (resumes : m.Resumes text) :
    m.mute text = Mode.mute .code text := by
  cases text with
  | nil => rfl
  | cons c rest =>
      rw [mute_code_cons, Mode.mute, resumes.cons]
      exact if_neg fun dropped => resumes.ne_comment dropped.2 dropped.1

theorem Resumes.after {m : Mode} {text : List Char} (resumes : m.Resumes text)
    (something : text ≠ []) : m.after text = Mode.after .code text := by
  cases text with
  | nil => exact absurd rfl something
  | cons c rest => rw [after_cons, after_cons, resumes.cons]

theorem Resumes.take {m : Mode} {text : List Char} (resumes : m.Resumes text) (length : Nat) :
    m.Resumes (text.take length) := by
  intro c first
  cases length with
  | zero => cases first
  | succ length => exact resumes c (by cases text <;> exact first)

/-- A piece of a text that muting leaves alone, and behind which the text resumes. -/
structure Keeps (m : Mode) (piece behind : List Char) : Prop where
  stays : m.mute piece = piece
  closed : m.after piece ≠ .comment
  resumes : (m.after piece).Resumes behind

/-- Muting goes on behind the piece. -/
theorem Keeps.mute_append {m : Mode} {piece behind : List Char} (keeps : m.Keeps piece behind) :
    m.mute (piece ++ behind) = piece ++ Mode.mute .code behind := by
  rw [Mode.mute_append, keeps.stays, keeps.resumes.mute]

theorem keeps_nil {m : Mode} {behind : List Char} (outside : m ≠ .comment)
    (resumes : m.Resumes behind) : m.Keeps [] behind := ⟨rfl, outside, resumes⟩

/-- A piece without slashes and quotation marks is kept in code. -/
theorem keeps_plain {piece : List Char} (plain : ∀ c ∈ piece, c ≠ '/' ∧ c ≠ '"')
    (behind : List Char) : Keeps .code piece behind where
  stays := mute_code plain
  closed := by rw [after_code plain]; decide
  resumes := by rw [after_code plain]; exact resumes_code behind

/-- A character in front of a piece that is kept is kept with it. -/
theorem Keeps.cons {m : Mode} {c : Char} {piece behind : List Char}
    (keeps : (m.step c).Keeps piece behind) (outside : m ≠ .comment) :
    m.Keeps (c :: piece) behind where
  stays := by rw [mute_cons outside, keeps.stays]
  closed := keeps.closed
  resumes := keeps.resumes

end Mode

/-! ## Gaps -/

/-- The text ends, or a line does. -/
def EndsLine (behind : List Char) : Prop := behind = [] ∨ ∃ rest, behind = '\n' :: rest

section EndsLine

variable {behind : List Char}

theorem EndsLine.resumes (ends : EndsLine behind) (m : Mode) : m.Resumes behind := by
  rcases ends with rfl | ⟨rest, rfl⟩
  · exact Mode.resumes_nil m
  · exact Mode.resumes_newline m rest

theorem EndsLine.take (ends : EndsLine behind) (length : Nat) :
    EndsLine (behind.take length) := by
  rcases ends with rfl | ⟨rest, rfl⟩
  · exact Or.inl List.take_nil
  · cases length with
    | zero => exact Or.inl rfl
    | succ length => exact Or.inr ⟨_, rfl⟩

theorem EndsLine.mute (ends : EndsLine behind) : EndsLine (Mode.mute .code behind) := by
  rcases ends with rfl | ⟨rest, rfl⟩
  · exact Or.inl rfl
  · exact Or.inr ⟨_, Mode.mute_newline .code rest⟩

end EndsLine

/-- A gap is a run of blanks and comments: what holds behind the last gap, and in front of
a blank or a comment if it holds behind it, holds of every text. -/
theorem gap_induction {motive : List Char → Prop}
    (none : ∀ text, gapLength false text = 0 → motive text)
    (blank : ∀ c rest, isBlank c = true → motive rest → motive (c :: rest))
    (comment : ∀ body behind : List Char, '\n' ∉ body →
      EndsLine behind → motive behind →
      motive ('/' :: '/' :: (body ++ behind)))
    (text : List Char) : motive text := by
  induction size : text.length using Nat.strongRecOn generalizing text with
  | ind length inductionHypothesis =>
      subst size
      rcases gap_cases text with nothing | ⟨c, rest, rfl, isBlank, -⟩ |
        ⟨body, behind, rfl, noBreak, ends, -⟩
      · exact none text nothing
      · exact blank c rest isBlank (inductionHypothesis _ (Nat.lt_succ_self _) rest rfl)
      · refine comment body behind noBreak ends (inductionHypothesis _ ?_ behind rfl)
        simp only [List.cons_append, List.length_cons, List.length_append]
        omega

section Gap

variable {c : Char} {body behind : List Char}

theorem gapLength_blank (blank : isBlank c = true) (rest : List Char) :
    gapLength false (c :: rest) = gapLength false rest + 1 := by
  rw [gapLength, if_pos blank]

theorem gapLength_comment (noBreak : '\n' ∉ body) (ends : EndsLine behind) :
    gapLength false ('/' :: '/' :: (body ++ behind)) =
      gapLength false behind + body.length + 2 := by
  have inside : gapLength true (body ++ behind) = gapLength false behind + body.length := by
    induction body with
    | nil => rcases ends with rfl | ⟨rest, rfl⟩ <;> rfl
    | cons c body inductionHypothesis =>
        obtain ⟨other, noBreak⟩ := not_or.mp (mt List.mem_cons.mpr noBreak)
        rw [List.cons_append, gapLength, decide_eq_true (Ne.symm other),
          inductionHypothesis noBreak, List.length_cons, Nat.add_assoc]
  have slashes : gapLength false ('/' :: '/' :: (body ++ behind)) =
      gapLength true (body ++ behind) + 2 := rfl
  rw [slashes, inside]

theorem step_blank (blank : isBlank c = true) : Mode.step .code c = .code := by
  obtain ⟨noSlash, noQuote⟩ : c ≠ '/' ∧ c ≠ '"' :=
    Mode.ne_of_plain (p := isBlank) (by decide) (by decide) blank
  exact Mode.step_code noSlash noQuote

/-- Of a comment only the slashes are left. -/
theorem mute_comment (noBreak : '\n' ∉ body) (ends : EndsLine behind) :
    Mode.mute .code ('/' :: '/' :: (body ++ behind)) = '/' :: '/' :: Mode.mute .code behind := by
  show '/' :: '/' :: Mode.mute .comment (body ++ behind) = _
  rw [Mode.mute_append, Mode.mute_comment_line noBreak, Mode.after_comment noBreak,
    (ends.resumes _).mute, List.nil_append]

end Gap

/-- A gap of the muted text is the muted gap. -/
theorem gapLength_mute (text : List Char) :
    gapLength false (Mode.mute .code text) =
      (Mode.mute .code (text.take (gapLength false text))).length := by
  induction text using gap_induction with
  | none text nothing =>
      rw [nothing, List.take_zero, Mode.mute_nil, List.length_nil]
      cases text with
      | nil => rfl
      | cons c rest =>
          rw [Mode.mute_code_cons]
          rw [gapLength] at nothing ⊢
          rw [Mode.head?_mute (Mode.step_code_ne_comment c)]
          split at nothing
          · cases nothing
          · split at nothing
            · cases nothing
            · rename_i notBlank opensNot
              rw [if_neg notBlank, if_neg opensNot]
  | blank c rest isBlank inductionHypothesis =>
      rw [gapLength_blank isBlank, List.take_succ_cons, Mode.mute_code_cons, Mode.mute_code_cons,
        gapLength_blank isBlank, step_blank isBlank, inductionHypothesis, List.length_cons]
  | comment body behind noBreak ends inductionHypothesis =>
      have slashes := gapLength_comment List.not_mem_nil ends.mute
      rw [List.nil_append] at slashes
      rw [gapLength_comment noBreak ends, mute_comment noBreak ends, slashes, inductionHypothesis,
        List.take_succ_cons, List.take_succ_cons, Nat.add_comm _ body.length,
        List.take_length_add_append, mute_comment noBreak (ends.take _)]
      rfl

/-- Behind a gap a reader is in code, unless the text ends there. -/
theorem after_gap {text : List Char} (something : text.drop (gapLength false text) ≠ []) :
    Mode.after .code (text.take (gapLength false text)) = .code := by
  induction text using gap_induction with
  | none text nothing => rw [nothing]; rfl
  | blank c rest isBlank inductionHypothesis =>
      rw [gapLength_blank isBlank] at something ⊢
      rw [List.take_succ_cons, Mode.after_cons, step_blank isBlank]
      exact inductionHypothesis something
  | comment body behind noBreak ends inductionHypothesis =>
      rw [gapLength_comment noBreak ends, Nat.add_comm _ body.length] at something ⊢
      rw [List.drop_succ_cons, List.drop_succ_cons, List.drop_length_add_append] at something
      rw [List.take_succ_cons, List.take_succ_cons, List.take_length_add_append]
      show Mode.after .comment (body ++ _) = _
      have resumes := ends.resumes .comment
      rw [Mode.after_append, Mode.after_comment noBreak, (resumes.take _).after ?_,
        inductionHypothesis something]
      -- behind the comment at least the line break belongs to the gap
      rcases ends with rfl | ⟨rest, rfl⟩
      · exact absurd List.drop_nil something
      · rw [gapLength_blank Text.isBlank_newline]
        exact List.cons_ne_nil _ _

/-- What is behind a gap of the muted text is what is left of the text behind the gap. -/
theorem drop_gapLength_mute (text : List Char) :
    (Mode.mute .code text).drop (gapLength false (Mode.mute .code text)) =
      Mode.mute .code (text.drop (gapLength false text)) := by
  have divided := Mode.mute_append .code (text.take (gapLength false text))
    (text.drop (gapLength false text))
  rw [List.take_append_drop] at divided
  rw [gapLength_mute, divided, List.drop_left]
  by_cases nothing : text.drop (gapLength false text) = []
  · rw [nothing]
    rfl
  · rw [after_gap nothing]

end Vivarium.Source
