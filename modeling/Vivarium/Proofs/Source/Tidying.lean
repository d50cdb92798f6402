import Vivarium.Proofs.Source.Lookahead

/-!
# Tidying piece by piece

The two passes and the trim at the end can be followed from the start of a text: they leave
alone what has no more blanks and semicolons than it needs, and go on behind it as if it were
not there.  Only a semicolon leaves a trace, since further ones behind it are left out.  So
there are two texts to look at, what becomes of a text and what becomes of it behind a
semicolon.

Main definitions:

* `shapes`: the kinds and texts of the tokens of a text;
* `tidy`, `tidyBehind`: a text after both passes and the trim at its end.

Main statements:

* `tidy_append`: a piece that is left alone;
* `shapes_tidy_trimStart`, `shapes_tidyBehind_trimStart`: blanks in front do not matter;
* `takeWhile_tidy`: what stands in front of the next blank or semicolon stays.
-/

namespace Vivarium.Source

open Vivarium.Text (isBlank trim trimStart trimEnd)

/-! ## Shapes -/

/-- The kinds and texts of the tokens of a text. -/
def shapes (text : List Char) : List (Token.Kind × String) :=
  (tokensFrom Position.start text).map Token.shape

/-- What a lexeme is as a token, without a place. -/
def Lexeme.shape (lx : Lexeme) : Token.Kind × String := (lx.kind, String.ofList lx.text)

section Shapes

variable {c first : Char} {text more rest : List Char}

theorem shapes_nil : shapes [] = [] := by rw [shapes, tokensFrom_nil, List.map_nil]

theorem shapes_of_fills (fills : gapLength false text = text.length) : shapes text = [] := by
  rw [shapes, tokensFrom_eq_nil (by rw [fills, List.drop_length]), List.map_nil]

theorem shapes_blank (blank : isBlank c = true) (rest : List Char) :
    shapes (c :: rest) = shapes rest := by
  have passes : gapLength false ([c] ++ rest) = [c].length + gapLength false rest := by
    rw [List.singleton_append, gapLength_blank blank, List.length_singleton, Nat.add_comm]
  rw [shapes, ← List.singleton_append, tokensFrom_gap passes, shapes_tokensFrom _ Position.start]
  rfl

theorem shapes_lexeme (starts : gapLength false (first :: (more ++ rest)) = 0)
    (covers : (lexeme first (more ++ rest)).more = more.length) :
    shapes (first :: (more ++ rest)) = (lexeme first (more ++ rest)).shape :: shapes rest := by
  have next : (first :: (more ++ rest)).drop (gapLength false (first :: (more ++ rest))) =
      first :: (more ++ rest) := by
    rw [starts, List.drop_zero]
  rw [shapes, tokensFrom_eq_cons next, List.map_cons, shapes_tokensFrom _ Position.start, covers,
    List.drop_left]
  rfl

end Shapes

/-! ## The trim at the end -/

/-- A text that ends with no blank keeps its end. -/
theorem trimEnd_append {lead : List Char}
    (stops : ∀ c, lead.getLast? = some c → isBlank c = false) (rest : List Char) :
    trimEnd (lead ++ rest) = lead ++ trimEnd rest := by
  induction rest using List.reverseRecOn with
  | nil =>
      rw [List.append_nil, trimEnd_eq_rdropWhile, List.rdropWhile_eq_self_iff.mpr, trimEnd]
      · exact (List.append_nil lead).symm
      · intro some
        exact Bool.eq_false_iff.mp (stops _ (List.getLast?_eq_some_getLast some))
  | append_singleton front c inductionHypothesis =>
      rw [← List.append_assoc, trimEnd_concat, trimEnd_concat]
      split
      · exact inductionHypothesis
      · exact List.append_assoc lead front [c]

/-- A blank in front is trimmed only if nothing is left. -/
theorem trimEnd_cons_blank {c : Char} (blank : isBlank c = true) (rest : List Char) :
    (trimEnd (c :: rest) = [] ∧ trimEnd rest = []) ∨ trimEnd (c :: rest) = c :: trimEnd rest := by
  rw [trimEnd, List.reverse_cons, List.dropWhile_append, trimEnd]
  split
  · rename_i nothing
    rw [List.dropWhile_cons_of_pos blank, List.isEmpty_iff.mp nothing]
    exact .inl ⟨rfl, rfl⟩
  · rw [List.reverse_append]
    exact .inr rfl

theorem shapes_trimEnd_blank {c : Char} (blank : isBlank c = true) (rest : List Char) :
    shapes (trimEnd (c :: rest)) = shapes (trimEnd rest) := by
  rcases trimEnd_cons_blank blank rest with ⟨nothing, none⟩ | kept
  · rw [nothing, none]
  · rw [kept, shapes_blank blank]

/-! ## What is left alone -/

/-- A text after both passes and the trim at its end. -/
def tidy (text : List Char) : List Char :=
  trimEnd (collapseSemicolons (collapseBlanks false text))

/-- The same of a text that stands behind a semicolon. -/
def tidyBehind (text : List Char) : List Char :=
  trimEnd (collapseSemicolons (dropSemicolons (collapseBlanks false text)))

section Collapsed

variable {lead : List Char}

/-- A text that ends with no blank has something behind the blanks it starts with. -/
theorem exists_trimStart_append (nonempty : lead ≠ [])
    (solid : ∀ c, lead.getLast? = some c → isBlank c = false) :
    ∃ c others, trimStart lead = c :: others ∧
      ∀ rest, trimStart (lead ++ rest) = c :: (others ++ rest) := by
  have something : lead.dropWhile isBlank ≠ [] := by
    intro nothing
    have last := List.getLast?_eq_some_getLast nonempty
    have blank := List.dropWhile_eq_nil_iff.mp nothing _ (List.mem_of_getLast? last)
    rw [solid _ last] at blank
    cases blank
  obtain ⟨c, others, there⟩ := List.exists_cons_of_ne_nil something
  refine ⟨c, others, there, fun rest => ?_⟩
  rw [trimStart, List.dropWhile_append, there]
  rfl

variable (collapsed : IsCollapsed lead) (solid : ∀ c, lead.getLast? = some c → isBlank c = false)

include collapsed solid

/-- The first pass leaves alone what has no more blanks than it needs and ends with none, -/
theorem collapseBlanks_append (rest : List Char) :
    collapseBlanks false (lead ++ rest) = lead ++ collapseBlanks false rest := by
  induction lead with
  | nil => rfl
  | cons c front inductionHypothesis =>
      have tail := collapsed.of_part (List.suffix_cons c front).isInfix
      have solidTail : ∀ d, front.getLast? = some d → isBlank d = false :=
        fun d last => solid d (by rw [List.getLast?_cons, last]; rfl)
      rw [List.cons_append]
      by_cases blank : isBlank c = true
      · have goesOn : front ≠ [] := by
          rintro rfl
          rw [solid c rfl] at blank
          cases blank
        obtain ⟨d, others, alone, stays⟩ := exists_trimStart_append goesOn solidTail
        rw [collapsed.trimStart_eq_self blank] at alone
        rw [collapseBlanks_blank blank, stays, ← List.cons_append, ← alone,
          inductionHypothesis tail solidTail, collapsed.spaces c List.mem_cons_self blank]
        rfl
      · rw [collapseBlanks_solid (Bool.not_eq_true _ ▸ blank), inductionHypothesis tail solidTail]
        rfl

/-- and the second one what has no more semicolons than it needs, unless it ends with one and
another one follows. -/
theorem collapseSemicolons_append {rest : List Char}
    (apart : lead.getLast? = some ';' → (trimStart rest).head? ≠ some ';') :
    collapseSemicolons (lead ++ rest) = lead ++ collapseSemicolons rest := by
  induction lead with
  | nil => rfl
  | cons c front inductionHypothesis =>
      have tail := collapsed.of_part (List.suffix_cons c front).isInfix
      have later : ∀ d, front.getLast? = some d → (c :: front).getLast? = some d :=
        fun d last => by rw [List.getLast?_cons, last]; rfl
      have unchanged := inductionHypothesis tail (fun d last => solid d (later d last))
        (fun last => apart (later _ last))
      rw [List.cons_append]
      by_cases semicolon : c = ';'
      · subst semicolon
        have next : (trimStart (front ++ rest)).head? ≠ some ';' := by
          by_cases ends : front = []
          · subst ends
            exact apart rfl
          · obtain ⟨d, others, alone, stays⟩ :=
              exists_trimStart_append ends (fun d last => solid d (later d last))
            have distinct := collapsed.head?_trimStart
            rw [alone] at distinct
            rw [stays]
            exact distinct
        rw [collapseSemicolons_semicolon, dropSemicolons_eq_self next, unchanged]
        rfl
      · rw [collapseSemicolons_other semicolon, unchanged]
        rfl

/-- The trim takes the blanks that follow. -/
theorem tidy_append_blanks {blanks : List Char} (all : ∀ c ∈ blanks, isBlank c = true) :
    tidy (lead ++ blanks) = lead := by
  have nothing : trimStart (collapseBlanks false blanks) = [] ∧
      collapseSemicolons (collapseBlanks false blanks) = collapseBlanks false blanks ∧
      trimEnd (collapseBlanks false blanks) = [] := by
    cases blanks with
    | nil => exact ⟨rfl, by rw [collapseBlanks, collapseSemicolons], rfl⟩
    | cons c rest =>
        have noneLeft : trimStart rest = [] :=
          List.dropWhile_eq_nil_iff.mpr fun d member => all d (List.mem_cons_of_mem c member)
        rw [collapseBlanks_blank (all c List.mem_cons_self), noneLeft, collapseBlanks,
          collapseSemicolons_other (by decide), collapseSemicolons]
        decide
  have apart : (trimStart (collapseBlanks false blanks)).head? ≠ some ';' := by
    rw [nothing.1]
    intro impossible
    cases impossible
  rw [tidy, collapseBlanks_append collapsed solid,
    collapseSemicolons_append collapsed solid (fun _ => apart), nothing.2.1,
    trimEnd_append solid, nothing.2.2, List.append_nil]

end Collapsed

/-- A piece that is left alone: it has no more blanks and semicolons than it needs, and ends
with neither. -/
structure IsPiece (lead : List Char) : Prop extends IsCollapsed lead where
  ends : ∀ c, lead.getLast? = some c → isMark c = true

/-- Marks alone make a piece. -/
theorem IsPiece.of_marks {lead : List Char} (marks : ∀ c ∈ lead, isMark c = true) :
    IsPiece lead where
  spaces c member blank := by
    rw [(isMark_iff.mp (marks c member)).1] at blank
    cases blank
  single pair := absurd (marks ' ' (pair.mem List.mem_cons_self)) (by decide)
  semicolons pair := absurd (marks ';' (pair.mem List.mem_cons_self)) (by decide)
  spacedSemicolons spaced := absurd (marks ';' (spaced.mem List.mem_cons_self)) (by decide)
  ends c last := marks c (List.mem_of_getLast? last)

/-- A piece is left alone. -/
theorem tidy_append {lead : List Char} (piece : IsPiece lead) (rest : List Char) :
    tidy (lead ++ rest) = lead ++ tidy rest := by
  have solid : ∀ c, lead.getLast? = some c → isBlank c = false :=
    fun c last => (isMark_iff.mp (piece.ends c last)).1
  have noSemicolon : lead.getLast? ≠ some ';' :=
    fun last => absurd (piece.ends ';' last) (by decide)
  rw [tidy, collapseBlanks_append piece.toIsCollapsed solid,
    collapseSemicolons_append piece.toIsCollapsed solid (fun last => absurd last noSemicolon),
    trimEnd_append solid, tidy]

/-! ## What is taken away -/

section First

variable {c : Char} (rest : List Char)

theorem tidy_nil : tidy [] = [] := by
  rw [tidy, collapseBlanks, collapseSemicolons]
  rfl

/-- A first semicolon stays, and the text goes on behind it. -/
theorem tidy_semicolon : tidy (';' :: rest) = [';'] ++ tidyBehind rest := by
  have solid : ∀ c, [';'].getLast? = some c → isBlank c = false := by
    rintro c ⟨⟩
    exact isBlank_semicolon
  rw [tidy, collapseBlanks_solid isBlank_semicolon, collapseSemicolons_semicolon,
    ← List.singleton_append, trimEnd_append solid, tidyBehind]

/-- Behind a semicolon a further one goes, -/
theorem tidyBehind_semicolon : tidyBehind (';' :: rest) = tidyBehind rest := by
  rw [tidyBehind, collapseBlanks_solid isBlank_semicolon, dropSemicolons, tidyBehind]

/-- and nothing else does. -/
theorem tidyBehind_mark (mark : isMark c = true) :
    tidyBehind (c :: rest) = tidy (c :: rest) := by
  obtain ⟨solid, noSemicolon⟩ := isMark_iff.mp mark
  have next : (trimStart (c :: collapseBlanks false rest)).head? ≠ some ';' := by
    rw [trimStart, List.dropWhile_cons_of_neg (Bool.eq_false_iff.mp solid)]
    exact fun same => noSemicolon (Option.some.inj same)
  rw [tidyBehind, collapseBlanks_solid solid, dropSemicolons_eq_self next,
    ← collapseBlanks_solid solid, tidy]

theorem tidy_blank (blank : isBlank c = true) :
    tidy (c :: rest) =
      trimEnd (' ' :: collapseSemicolons (collapseBlanks false (trimStart rest))) := by
  rw [tidy, collapseBlanks_blank blank, collapseSemicolons_other (by decide)]

end First

/-- Blanks in front of a text do not matter for the tokens, -/
theorem shapes_tidy_trimStart (text : List Char) :
    shapes (tidy (trimStart text)) = shapes (tidy text) := by
  cases text with
  | nil => rfl
  | cons c rest =>
      by_cases blank : isBlank c = true
      · rw [tidy_blank rest blank, shapes_trimEnd_blank isBlank_space, trimStart,
          List.dropWhile_cons_of_pos blank, tidy, trimStart]
      · rw [trimStart, List.dropWhile_cons_of_neg blank]

/-- nor behind a semicolon. -/
theorem shapes_tidyBehind_trimStart (text : List Char) :
    shapes (tidyBehind (trimStart text)) = shapes (tidyBehind text) := by
  cases text with
  | nil => rfl
  | cons c rest =>
      by_cases blank : isBlank c = true
      · rw [tidyBehind, tidyBehind, collapseBlanks_blank blank, trimStart,
          List.dropWhile_cons_of_pos blank, ← trimStart]
        generalize collapseBlanks false (trimStart rest) = left
        have passed : trimStart (' ' :: left) = trimStart left :=
          List.dropWhile_cons_of_pos isBlank_space
        by_cases next : (trimStart left).head? = some ';'
        · obtain ⟨after, there⟩ := List.head?_eq_some_iff.mp next
          rw [dropSemicolons_of_semicolon there, dropSemicolons_of_semicolon (passed.trans there)]
        · rw [dropSemicolons_eq_self next, dropSemicolons_eq_self (passed ▸ next),
            collapseSemicolons_other (by decide), shapes_trimEnd_blank isBlank_space]
      · rw [trimStart, List.dropWhile_cons_of_neg blank]

/-- What stands in front of the next blank or semicolon stays. -/
theorem takeWhile_tidy (text : List Char) :
    (tidy text).takeWhile isMark = text.takeWhile isMark := by
  have marks := of_mem_takeWhile isMark text
  have whole : tidy text = text.takeWhile isMark ++ tidy (text.dropWhile isMark) := by
    rw [← tidy_append (IsPiece.of_marks marks), List.takeWhile_append_dropWhile]
  have ends : (tidy (text.dropWhile isMark)).takeWhile isMark = [] := by
    cases left : text.dropWhile isMark with
    | nil => rw [tidy_nil, List.takeWhile_nil]
    | cons stop after =>
        have apart := List.head?_dropWhile_not isMark text
        rw [left] at apart
        rcases isMark_eq_false_iff.mp apart with blank | rfl
        · rw [tidy_blank after blank]
          rcases trimEnd_cons_blank isBlank_space
            (collapseSemicolons (collapseBlanks false (trimStart after))) with ⟨nothing, -⟩ | kept
          · rw [nothing, List.takeWhile_nil]
          · rw [kept, List.takeWhile_cons_of_neg (by decide)]
        · rw [tidy_semicolon, List.singleton_append, List.takeWhile_cons_of_neg (by decide)]
  rw [whole, List.takeWhile_append_of_pos marks, ends, List.append_nil]

end Vivarium.Source
