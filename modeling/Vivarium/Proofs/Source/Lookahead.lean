import Vivarium.Proofs.Source.MutedGap
import Vivarium.Proofs.Source.NormalText

/-!
# What a lexeme looks at

Words, numbers and operators look no further than to the next blank or semicolon, and end
in front of it.  A string literal looks as far as it reaches: if it is closed, what follows
it does not matter, and if it is not, a line break or the end of the text follows it.

Main statements:

* `endsLexeme_of_not_isMark`: blanks and semicolons end a lexeme;
* `lexeme_congr`, `isMark_of_mem_lexeme`: how far a lexeme looks, string literals apart;
* `literal_ends`: how far a string literal looks.
-/

namespace Vivarium.Source

open Vivarium.Text (isBlank)

/-! ## Words, numbers and operators -/

/-- Letters, digits, underscores and points are no blanks, nor is what makes an operator of
two characters. -/
theorem endsLexeme_of_isBlank {c : Char} (blank : isBlank c = true) : EndsLexeme c := by
  have strange : c.toNat < 33 ∨ 126 < c.toNat := by
    by_contra printable
    rw [not_or, Nat.not_lt, Nat.not_lt] at printable
    rw [isBlank_eq_false printable.1 printable.2] at blank
    cases blank
  have noDigit : ¬c.isDigit = true := by
    rw [isDigit_iff]
    omega
  have noStart : ¬isWordStart c = true := by
    rw [isWordStart_iff]
    omega
  refine ⟨?_, Bool.not_eq_true _ ▸ noDigit, ?_, ?_⟩
  · rw [isWordStart, Bool.or_eq_true, not_or, Bool.not_eq_true, Bool.not_eq_true] at noStart
    rw [Bool.not_eq_true] at noDigit
    rw [isWordPart, Char.isAlphanum, noStart.1, noStart.2, noDigit]
    rfl
  · rintro rfl
    exact absurd blank (by decide)
  · intro first pair
    have solid : ∀ pair ∈ twoCharOperators, isBlank pair.2 = false := by decide
    rw [solid _ pair] at blank
    cases blank

theorem endsLexeme_of_not_isMark {c : Char} (apart : isMark c = false) : EndsLexeme c := by
  rcases isMark_eq_false_iff.mp apart with blank | rfl
  · exact endsLexeme_of_isBlank blank
  · exact ⟨by decide, by decide, by decide, fun first => by simp [twoCharOperators]⟩

section Lookahead

variable {first : Char} (noQuote : first ≠ '"')

include noQuote

theorem lexeme_takeWhile (rest : List Char) :
    lexeme first (rest.takeWhile isMark) = lexeme first rest := by
  have divided := List.takeWhile_append_dropWhile (p := isMark) (l := rest)
  cases left : rest.dropWhile isMark with
  | nil =>
      rw [left, List.append_nil] at divided
      rw [divided]
  | cons stop after =>
      have apart := List.head?_dropWhile_not isMark rest
      rw [left] at apart divided
      rw [← lexeme_append_stop (endsLexeme_of_not_isMark apart) noQuote _ after, divided]

/-- A lexeme looks no further than to the next blank or semicolon, -/
theorem lexeme_congr {rest others : List Char}
    (same : rest.takeWhile isMark = others.takeWhile isMark) :
    lexeme first rest = lexeme first others := by
  rw [← lexeme_takeWhile noQuote rest, same, lexeme_takeWhile noQuote]

/-- and ends in front of it. -/
theorem isMark_of_mem_lexeme {more rest : List Char}
    (covers : (lexeme first (more ++ rest)).more = more.length) : ∀ c ∈ more, isMark c = true := by
  have inside : more.length ≤ ((more ++ rest).takeWhile isMark).length := by
    rw [← covers, ← lexeme_takeWhile noQuote]
    exact lexeme_more_le first _
  obtain ⟨behind, whole⟩ := List.takeWhile_prefix isMark (l := more ++ rest)
  have front : more <+: (more ++ rest).takeWhile isMark :=
    List.prefix_of_prefix_length_le (List.prefix_append more rest) ⟨behind, whole⟩ inside
  intro c member
  exact List.all_eq_true.mp List.all_takeWhile c (front.mem member)

end Lookahead

/-! ## String literals -/

/-- A literal is closed by a quotation mark, and what follows it does not matter; or it stops
where the line or the text ends. -/
theorem literal_ends (text : List Char) :
    let span := text.take (literal text).2
    (Mode.after .quoted span = .code ∧ span.getLast? = some '"' ∧
        ∀ behind, literal (span ++ behind) = literal text) ∨
      (Mode.after .quoted span ≠ .code ∧ EndsLine (text.drop (literal text).2)) := by
  intro span
  unfold span
  clear span
  fun_induction literal text with
  | case1 => exact .inr ⟨by decide, .inl rfl⟩
  | case2 rest => exact .inl ⟨rfl, rfl, fun _ => rfl⟩
  | case3 rest => exact .inr ⟨(by decide : Mode.quoted ≠ .code), .inr ⟨rest, rfl⟩⟩
  | case4 => exact .inr ⟨by decide, .inl rfl⟩
  | case5 rest => exact .inr ⟨(by decide : Mode.escaped ≠ .code), .inr ⟨rest, rfl⟩⟩
  | case6 c rest noBreak contents length read inductionHypothesis =>
      have resumed : Mode.after .quoted ('\\' :: c :: rest.take length) =
          Mode.after .quoted (rest.take length) := by
        have escaped : Mode.step .escaped c = .quoted := if_neg noBreak
        show (Mode.step .escaped c).after _ = _
        rw [escaped]
      rw [read] at inductionHypothesis
      rw [List.take_succ_cons, List.take_succ_cons, List.drop_succ_cons, List.drop_succ_cons,
        resumed]
      rcases inductionHypothesis with ⟨closed, last, same⟩ | openEnd
      · refine .inl ⟨closed, ?_, fun behind => ?_⟩
        · rw [List.getLast?_cons, List.getLast?_cons, last]
          rfl
        · rw [List.cons_append, List.cons_append, literal, if_neg noBreak, same behind]
      · exact .inr openEnd
  | case7 c rest noQuote noBreak endsNot escapesNot contents length read inductionHypothesis =>
      have noEscape : c ≠ '\\' := ne_backslash endsNot escapesNot
      have resumed : Mode.after .quoted (c :: rest.take length) =
          Mode.after .quoted (rest.take length) := by
        rw [Mode.after_cons, Mode.step, if_neg noQuote, if_neg noBreak, if_neg noEscape]
      rw [read] at inductionHypothesis
      rw [List.take_succ_cons, List.drop_succ_cons, resumed]
      rcases inductionHypothesis with ⟨closed, last, same⟩ | openEnd
      · refine .inl ⟨closed, ?_, fun behind => ?_⟩
        · rw [List.getLast?_cons, last]
          rfl
        · rw [List.cons_append, literal_cons noQuote noBreak noEscape, same behind]
      · exact .inr openEnd

end Vivarium.Source
