import Vivarium.Proofs.Source.Line
import Vivarium.Source.Blueprint.Reader

/-!
# Excerpts of a source

Bodies, programs and values are cut out of the source by the offsets of the tokens
around them.  A text stands in a source at a place if the source goes on with it
behind the offset of the place; the characters between that place and the one behind
the text are the text again.

Main definitions:

* `Stands`: the source goes on with a text at a place.

Main statements:

* `stands_append`: a text in two parts, each at its own place;
* `Stands.slice_eq`: cutting a text out gives it back, trimmed;
* `trim_lines`: the line breaks around a text are trimmed away.
-/

namespace Vivarium.Source

open Vivarium.Text (trim trimStart trimEnd isBlank)

/-! ## Blanks at the ends -/

theorem trimEnd_append_newline (text : List Char) : trimEnd (text ++ ['\n']) = trimEnd text := by
  rw [trimEnd, List.reverse_append, List.reverse_singleton, List.singleton_append,
    List.dropWhile_cons, Text.isBlank_newline]
  rfl

theorem trimStart_append_newline (text : List Char) :
    trimStart (text ++ ['\n']) =
      if trimStart text = [] then [] else trimStart text ++ ['\n'] := by
  induction text with
  | nil => rfl
  | cons c rest inductionHypothesis =>
      unfold trimStart at inductionHypothesis ⊢
      rw [List.cons_append, List.dropWhile_cons, List.dropWhile_cons]
      split
      · exact inductionHypothesis
      · rw [if_neg (List.cons_ne_nil c rest), List.cons_append]

/-- The line breaks around a text are trimmed away. -/
theorem trim_lines (text : List Char) : trim ('\n' :: (text ++ ['\n'])) = trim text := by
  have leading : trimStart ('\n' :: (text ++ ['\n'])) = trimStart (text ++ ['\n']) := by
    rw [trimStart, List.dropWhile_cons, Text.isBlank_newline]
    rfl
  rw [trim, leading, trimStart_append_newline, trim]
  split
  · rename_i nothing
    rw [nothing]
  · exact trimEnd_append_newline _

/-- A text without blanks is trimmed. -/
theorem trim_of_solid {text : List Char} (solid : ∀ c ∈ text, isBlank c = false) :
    trim text = text := by
  have unchanged : ∀ text : List Char, (∀ c ∈ text, isBlank c = false) →
      text.dropWhile isBlank = text := by
    intro text solid
    cases text with
    | nil => rfl
    | cons c rest => rw [List.dropWhile_cons, solid c List.mem_cons_self]; rfl
  rw [trim, trimStart, unchanged text solid, trimEnd,
    unchanged text.reverse fun c member => solid c (List.mem_reverse.mp member),
    List.reverse_reverse]

/-! ## Texts at their places -/

/-- The source goes on with a text at a place. -/
def Stands (source : List Char) (place : Position) (text : List Char) : Prop :=
  text <+: source.drop place.offset

theorem stands_start (source : List Char) : Stands source Position.start source :=
  List.prefix_refl source

/-- A text in two parts stands at a place if the first part stands there and the
second one behind it. -/
theorem stands_append {source : List Char} {place : Position} {first second : List Char} :
    Stands source place (first ++ second) ↔
      Stands source place first ∧ Stands source (place.advance first) second := by
  unfold Stands
  rw [Position.advance_offset, ← List.drop_drop]
  constructor
  · rintro ⟨rest, whole⟩
    rw [← whole, List.append_assoc]
    refine ⟨List.prefix_append _ _, ?_⟩
    rw [List.drop_left]
    exact List.prefix_append _ _
  · rintro ⟨⟨rest, whole⟩, behind⟩
    rw [← whole, List.drop_left] at behind
    rw [← whole]
    exact List.prefix_append_right_inj first |>.mpr behind

/-- The first of several lines stands at a place, and the others behind its break. -/
theorem Stands.of_unlines_cons {source : List Char} {place : Position} {line : List Char}
    {others : List (List Char)} (stands : Stands source place (unlines (line :: others))) :
    Stands source place line ∧
      Stands source (place.advance (line ++ ['\n'])) (unlines others) := by
  have regroup : unlines (line :: others) = (line ++ ['\n']) ++ unlines others := by
    rw [unlines_cons, List.append_assoc, List.singleton_append]
  rw [regroup, stands_append] at stands
  exact ⟨(stands_append.mp stands.1).1, stands.2⟩

/-- What is cut out of the source at the places around a text is the text, trimmed. -/
theorem Stands.slice_eq {source : List Char} {place : Position} {text : List Char}
    (stands : Stands source place text) :
    slice source place.offset (place.advance text).offset = String.ofList (trim text) := by
  obtain ⟨rest, whole⟩ := stands
  rw [slice, Position.advance_offset, Nat.add_sub_cancel_left, ← whole, List.take_left]

end Vivarium.Source
