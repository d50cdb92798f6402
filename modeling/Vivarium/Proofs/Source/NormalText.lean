import Mathlib.Data.List.Chain
import Mathlib.Data.List.DropRight
import Mathlib.Data.List.Infix
import Vivarium.Source.Blueprint.Normal

/-!
# Normal workflow texts

Two passes and a trim bring a workflow text to its normal form.  The first pass leaves a
single space of every run of blanks, so that the second one finds at most a space between
two semicolons that it joins.  What it leaves behind a semicolon does not go on with another
one, and the trim only takes away what stands at the ends.  So the form that comes out can be
described without the passes, and a text that has it comes through each of them unchanged.

Main definitions:

* `IsCollapsed`, `IsNormalText`: the form, by what stands next to each other in a text;
* `isMark`, `marks`: a text without its blanks and semicolons.

Main statements:

* `isNormalText_normalText`: the passes lead to the form;
* `normalText_eq_self`: and leave it alone;
* `marks_normalText`: nothing but blanks and semicolons is taken away.
-/

namespace Vivarium.Source

open Vivarium.Text (isBlank trim trimStart trimEnd)

/-- A text with no more blanks and semicolons than it needs. -/
structure IsCollapsed (text : List Char) : Prop where
  /-- All blanks are spaces, -/
  spaces : ∀ c ∈ text, isBlank c = true → c = ' '
  /-- and each stands alone. -/
  single : ¬[' ', ' '] <:+: text
  /-- No semicolon is followed by another one, -/
  semicolons : ¬[';', ';'] <:+: text
  /-- with a space between them or without. -/
  spacedSemicolons : ¬[';', ' ', ';'] <:+: text

instance (text : List Char) : Decidable (IsCollapsed text) :=
  have spaces : text.all (fun c => !isBlank c || c = ' ') = true ↔
      ∀ c ∈ text, isBlank c = true → c = ' ' := by
    rw [List.all_eq_true]
    exact forall₂_congr fun c _ => by cases isBlank c <;> simp
  decidable_of_iff
    (text.all (fun c => !isBlank c || c = ' ') = true ∧ ¬[' ', ' '] <:+: text ∧
      ¬[';', ';'] <:+: text ∧ ¬[';', ' ', ';'] <:+: text)
    (by rw [spaces]; exact ⟨fun ⟨a, b, c, d⟩ => ⟨a, b, c, d⟩, fun ⟨a, b, c, d⟩ => ⟨a, b, c, d⟩⟩)

/-- A text in normal form has no blanks at its ends either. -/
structure IsNormalText (text : List Char) : Prop extends IsCollapsed text where
  starts : ∀ c, text.head? = some c → isBlank c = false
  stops : ∀ c, text.getLast? = some c → isBlank c = false

/-- The normal form of the characters of a workflow. -/
def normalText (text : List Char) : List Char :=
  trim (collapseSemicolons (collapseBlanks false text))

/-- A character that is neither blank nor a semicolon. -/
def isMark (c : Char) : Bool := !isBlank c && c != ';'

/-- The characters of a text that are neither blank nor a semicolon. -/
def marks (text : List Char) : List Char := text.filter isMark

theorem normalWorkflow_eq (workflow : String) :
    normalWorkflow workflow = String.ofList (normalText workflow.toList) := rfl

/-! ## One character -/

section Equations

variable {c : Char} {rest text after : List Char}

theorem collapseBlanks_solid (solid : isBlank c = false) (afterBlank : Bool) :
    collapseBlanks afterBlank (c :: rest) = c :: collapseBlanks false rest := by
  rw [collapseBlanks, if_neg (Bool.eq_false_iff.mp solid)]

/-- Behind a blank, further ones are passed by. -/
theorem collapseBlanks_true (text : List Char) :
    collapseBlanks true text = collapseBlanks false (trimStart text) := by
  induction text with
  | nil => rfl
  | cons c rest inductionHypothesis =>
      rw [trimStart, List.dropWhile_cons]
      by_cases blank : isBlank c = true
      · rw [if_pos blank, collapseBlanks, if_pos blank, if_pos rfl, inductionHypothesis, trimStart]
      · rw [if_neg blank, collapseBlanks_solid (Bool.not_eq_true _ ▸ blank),
          collapseBlanks_solid (Bool.not_eq_true _ ▸ blank)]

theorem collapseBlanks_blank (blank : isBlank c = true) :
    collapseBlanks false (c :: rest) = ' ' :: collapseBlanks false (trimStart rest) := by
  rw [collapseBlanks, if_pos blank, if_neg Bool.false_ne_true, collapseBlanks_true]

theorem isMark_iff : isMark c = true ↔ isBlank c = false ∧ c ≠ ';' := by
  rw [isMark, Bool.and_eq_true, Bool.not_eq_true', bne_iff_ne]

theorem isMark_eq_false_iff : isMark c = false ↔ isBlank c = true ∨ c = ';' := by
  rw [isMark, Bool.and_eq_false_iff, Bool.not_eq_false', bne_eq_false_iff_eq]

theorem isBlank_semicolon : isBlank ';' = false := by decide

theorem isBlank_space : isBlank ' ' = true := by decide

/-- Semicolons go on behind blanks, -/
theorem dropSemicolons_of_semicolon (next : trimStart text = ';' :: after) :
    dropSemicolons text = dropSemicolons after := by
  cases text with
  | nil => cases next
  | cons c rest =>
      by_cases semicolon : c = ';'
      · subst semicolon
        rw [trimStart, List.dropWhile_cons_of_neg (Bool.eq_false_iff.mp isBlank_semicolon)] at next
        obtain ⟨-, rfl⟩ := List.cons.inj next
        rw [dropSemicolons]
      · rw [trimStart, List.dropWhile_cons] at next
        split at next
        · rename_i blank
          rw [dropSemicolons, if_pos blank]
          · split
            · rename_i there
              rw [next] at there
              obtain ⟨-, rfl⟩ := List.cons.inj there
              rfl
            · rename_i nowhere
              exact absurd next (nowhere after)
          · exact semicolon
        · cases next
          exact absurd rfl semicolon

/-- and the blanks stay if they do not. -/
theorem dropSemicolons_eq_self (next : (trimStart text).head? ≠ some ';') :
    dropSemicolons text = text := by
  fun_cases dropSemicolons text with
  | case1 => rfl
  | case2 rest => exact absurd rfl next
  | case3 c rest _ blank after there =>
      rw [trimStart, List.dropWhile_cons_of_pos blank, there] at next
      exact absurd rfl next
  | case4 => rfl
  | case5 => rfl

theorem collapseSemicolons_semicolon (rest : List Char) :
    collapseSemicolons (';' :: rest) = ';' :: collapseSemicolons (dropSemicolons rest) := by
  rw [collapseSemicolons, if_pos rfl]

theorem collapseSemicolons_other (other : c ≠ ';') (rest : List Char) :
    collapseSemicolons (c :: rest) = c :: collapseSemicolons rest := by
  rw [collapseSemicolons, if_neg other]

end Equations

/-! ## What stands next to each other -/

theorem pair_infix_cons {a b c : Char} {text : List Char} :
    [a, b] <:+: c :: text ↔ (a = c ∧ text.head? = some b) ∨ [a, b] <:+: text := by
  rw [List.infix_cons_iff, List.cons_prefix_cons, List.singleton_prefix_iff_head?_eq_some]

theorem isCollapsed_nil : IsCollapsed [] :=
  ⟨List.forall_mem_nil _, by simp, by simp, by simp⟩

theorem IsCollapsed.of_part {part text : List Char} (collapsed : IsCollapsed text)
    (within : part <:+: text) : IsCollapsed part where
  spaces c member := collapsed.spaces c (within.mem member)
  single pair := collapsed.single (pair.trans within)
  semicolons pair := collapsed.semicolons (pair.trans within)
  spacedSemicolons pair := collapsed.spacedSemicolons (pair.trans within)

/-- Behind a space there is no further one. -/
theorem IsCollapsed.trimStart_eq_self {c : Char} {rest : List Char}
    (collapsed : IsCollapsed (c :: rest)) (blank : isBlank c = true) : trimStart rest = rest := by
  cases rest with
  | nil => rfl
  | cons next after =>
      refine List.dropWhile_cons_of_neg fun blankNext => ?_
      refine collapsed.single (pair_infix_cons.mpr (.inl ⟨?_, ?_⟩))
      · exact (collapsed.spaces c List.mem_cons_self blank).symm
      · rw [collapsed.spaces next (List.mem_cons_of_mem c List.mem_cons_self) blankNext]
        rfl

/-- Behind a semicolon there is no further one, with a space before it or without. -/
theorem IsCollapsed.head?_trimStart {rest : List Char} (collapsed : IsCollapsed (';' :: rest)) :
    (trimStart rest).head? ≠ some ';' := by
  have later := collapsed.of_part (List.suffix_cons ';' rest).isInfix
  cases rest with
  | nil => nofun
  | cons next after =>
      by_cases blank : isBlank next = true
      · rw [trimStart, List.dropWhile_cons_of_pos blank, ← trimStart,
          later.trimStart_eq_self blank]
        intro semicolon
        obtain ⟨behind, rfl⟩ := List.head?_eq_some_iff.mp semicolon
        rw [later.spaces next List.mem_cons_self blank] at collapsed
        exact collapsed.spacedSemicolons ⟨[], behind, rfl⟩
      · rw [trimStart, List.dropWhile_cons_of_neg blank]
        exact fun semicolon => collapsed.semicolons (pair_infix_cons.mpr (.inl ⟨rfl, semicolon⟩))

/-! ## The first pass -/

theorem spaces_collapseBlanks {afterBlank : Bool} {text : List Char} :
    ∀ c ∈ collapseBlanks afterBlank text, isBlank c = true → c = ' ' := by
  fun_induction collapseBlanks afterBlank text with
  | case1 => exact fun c member => absurd member List.not_mem_nil
  | case2 _ _ _ inductionHypothesis => exact inductionHypothesis
  | case3 _ _ _ _ _ inductionHypothesis =>
      exact List.forall_mem_cons.mpr ⟨fun _ => rfl, inductionHypothesis⟩
  | case4 _ c rest solid inductionHypothesis =>
      exact List.forall_mem_cons.mpr ⟨fun blank => absurd blank solid, inductionHypothesis⟩

/-- The spaces that the first pass leaves stand alone, and none follows a blank in front of
the text. -/
theorem single_collapseBlanks (afterBlank : Bool) (text : List Char) :
    ¬[' ', ' '] <:+: collapseBlanks afterBlank text ∧
      (afterBlank = true → (collapseBlanks afterBlank text).head? ≠ some ' ') := by
  fun_induction collapseBlanks afterBlank text with
  | case1 => exact ⟨by simp, fun _ => nofun⟩
  | case2 _ _ _ inductionHypothesis => exact inductionHypothesis
  | case3 _ _ _ _ notBehind inductionHypothesis =>
      refine ⟨fun pair => ?_, fun behind => absurd behind notBehind⟩
      rcases pair_infix_cons.mp pair with ⟨-, next⟩ | later
      · exact inductionHypothesis.2 rfl next
      · exact inductionHypothesis.1 later
  | case4 _ c rest solid inductionHypothesis =>
      have noSpace : c ≠ ' ' := by
        rintro rfl
        exact solid isBlank_space
      refine ⟨fun pair => ?_, fun _ first => noSpace (Option.some.inj first)⟩
      rcases pair_infix_cons.mp pair with ⟨here, -⟩ | later
      · exact noSpace here.symm
      · exact inductionHypothesis.1 later

/-- Single spaces come through the first pass. -/
theorem collapseBlanks_eq_self {text : List Char} (collapsed : IsCollapsed text) :
    collapseBlanks false text = text := by
  induction text with
  | nil => rfl
  | cons c rest inductionHypothesis =>
      have unchanged := inductionHypothesis (collapsed.of_part (List.suffix_cons c rest).isInfix)
      by_cases blank : isBlank c = true
      · have space := collapsed.spaces c List.mem_cons_self blank
        rw [collapseBlanks_blank blank, collapsed.trimStart_eq_self blank, unchanged, space]
      · rw [collapseBlanks_solid (Bool.not_eq_true _ ▸ blank), unchanged]

/-! ## The second pass -/

theorem dropSemicolons_suffix (text : List Char) : dropSemicolons text <:+ text := by
  fun_induction dropSemicolons text with
  | case1 => exact List.suffix_rfl
  | case2 rest inductionHypothesis => exact inductionHypothesis.trans (List.suffix_cons _ _)
  | case3 c rest _ _ after next _ inductionHypothesis =>
      have behind : ';' :: after <:+ rest := next ▸ List.dropWhile_suffix isBlank
      exact inductionHypothesis.trans ((List.suffix_cons _ _).trans
        (behind.trans (List.suffix_cons _ _)))
  | case4 => exact List.suffix_rfl
  | case5 => exact List.suffix_rfl

/-- Behind the semicolons that are left out, no further one follows, with blanks before it or
without. -/
theorem head?_trimStart_dropSemicolons (text : List Char) :
    (trimStart (dropSemicolons text)).head? ≠ some ';' := by
  fun_induction dropSemicolons text with
  | case1 =>
      intro impossible
      cases impossible
  | case2 _ inductionHypothesis => exact inductionHypothesis
  | case3 _ _ _ _ _ _ _ inductionHypothesis => exact inductionHypothesis
  | case4 c rest _ blank nowhere =>
      rw [trimStart, List.dropWhile_cons_of_pos blank]
      intro next
      obtain ⟨after, there⟩ := List.head?_eq_some_iff.mp next
      exact nowhere after there
  | case5 c rest other solid =>
      rw [trimStart, List.dropWhile_cons_of_neg solid]
      exact fun next => other (Option.some.inj next)

theorem head?_collapseSemicolons (text : List Char) :
    (collapseSemicolons text).head? = text.head? := by
  cases text with
  | nil => rw [collapseSemicolons]
  | cons c rest =>
      by_cases semicolon : c = ';'
      · rw [semicolon, collapseSemicolons_semicolon]
        rfl
      · rw [collapseSemicolons_other semicolon]
        rfl

theorem collapseSemicolons_subset (text : List Char) : collapseSemicolons text ⊆ text := by
  fun_induction collapseSemicolons text with
  | case1 => exact fun _ member => member
  | case2 rest _ inductionHypothesis =>
      exact List.cons_subset_cons _
        (List.Subset.trans inductionHypothesis (dropSemicolons_suffix rest).subset)
  | case3 c rest _ inductionHypothesis => exact List.cons_subset_cons _ inductionHypothesis

/-- What stands next to each other and is no semicolon stood so before. -/
theorem pair_infix_of_collapseSemicolons {a b : Char} (other : a ≠ ';') {text : List Char}
    (pair : [a, b] <:+: collapseSemicolons text) : [a, b] <:+: text := by
  fun_induction collapseSemicolons text with
  | case1 => exact pair
  | case2 rest _ inductionHypothesis =>
      rcases pair_infix_cons.mp pair with ⟨here, -⟩ | later
      · exact absurd here other
      · exact ((inductionHypothesis later).trans (dropSemicolons_suffix rest).isInfix).trans
          (List.suffix_cons _ _).isInfix
  | case3 c rest _ inductionHypothesis =>
      rw [pair_infix_cons] at pair ⊢
      rw [head?_collapseSemicolons] at pair
      exact pair.imp_right inductionHypothesis

/-- No semicolon follows another one, -/
theorem semicolons_collapseSemicolons (text : List Char) :
    ¬[';', ';'] <:+: collapseSemicolons text := by
  fun_induction collapseSemicolons text with
  | case1 => simp
  | case2 rest _ inductionHypothesis =>
      intro pair
      rcases pair_infix_cons.mp pair with ⟨-, next⟩ | later
      · rw [head?_collapseSemicolons] at next
        obtain ⟨after, there⟩ := List.head?_eq_some_iff.mp next
        have apart := head?_trimStart_dropSemicolons rest
        rw [there, trimStart, List.dropWhile_cons_of_neg (by decide)] at apart
        exact apart rfl
      · exact inductionHypothesis later
  | case3 c rest other inductionHypothesis =>
      intro pair
      rcases pair_infix_cons.mp pair with ⟨here, -⟩ | later
      · exact other here.symm
      · exact inductionHypothesis later

/-- and none with a space between them. -/
theorem spacedSemicolons_collapseSemicolons (text : List Char) :
    ¬[';', ' ', ';'] <:+: collapseSemicolons text := by
  fun_induction collapseSemicolons text with
  | case1 => simp
  | case2 rest _ inductionHypothesis =>
      intro spaced
      rcases List.infix_cons_iff.mp spaced with here | later
      · obtain ⟨-, next⟩ := List.cons_prefix_cons.mp here
        have apart := head?_trimStart_dropSemicolons rest
        cases left : dropSemicolons rest with
        | nil =>
            rw [left, collapseSemicolons] at next
            exact absurd (List.prefix_nil.mp next) (List.cons_ne_nil _ _)
        | cons c behind =>
            have space : c ≠ ';' := by
              rintro rfl
              rw [left, collapseSemicolons_semicolon] at next
              exact absurd (List.cons_prefix_cons.mp next).1 (by decide)
            rw [left, collapseSemicolons_other space] at next
            obtain ⟨rfl, last⟩ := List.cons_prefix_cons.mp next
            rw [List.singleton_prefix_iff_head?_eq_some, head?_collapseSemicolons] at last
            obtain ⟨after, rfl⟩ := List.head?_eq_some_iff.mp last
            rw [left] at apart
            exact apart rfl
      · exact inductionHypothesis later
  | case3 c rest other inductionHypothesis =>
      intro spaced
      rcases List.infix_cons_iff.mp spaced with here | later
      · exact other (List.cons_prefix_cons.mp here).1.symm
      · exact inductionHypothesis later

/-- The two passes leave no more blanks and semicolons than needed. -/
theorem isCollapsed_collapse (text : List Char) :
    IsCollapsed (collapseSemicolons (collapseBlanks false text)) where
  spaces c member := spaces_collapseBlanks c (collapseSemicolons_subset _ member)
  single pair := (single_collapseBlanks false text).1
    (pair_infix_of_collapseSemicolons (by decide) pair)
  semicolons := semicolons_collapseSemicolons _
  spacedSemicolons := spacedSemicolons_collapseSemicolons _

/-- Semicolons that stand apart come through the second pass. -/
theorem collapseSemicolons_eq_self {text : List Char} (collapsed : IsCollapsed text) :
    collapseSemicolons text = text := by
  induction text with
  | nil => rw [collapseSemicolons]
  | cons c rest inductionHypothesis =>
      have unchanged := inductionHypothesis (collapsed.of_part (List.suffix_cons c rest).isInfix)
      by_cases semicolon : c = ';'
      · subst semicolon
        rw [collapseSemicolons_semicolon, dropSemicolons_eq_self collapsed.head?_trimStart,
          unchanged]
      · rw [collapseSemicolons_other semicolon, unchanged]

/-! ## The trim -/

theorem trimEnd_eq_rdropWhile (text : List Char) : trimEnd text = text.rdropWhile isBlank := rfl

theorem trimEnd_isPrefix (text : List Char) : trimEnd text <+: text :=
  List.rdropWhile_prefix isBlank text

theorem trim_isInfix (text : List Char) : trim text <:+: text :=
  (trimEnd_isPrefix _).isInfix.trans (List.dropWhile_suffix isBlank).isInfix

/-- A trimmed text does not start with a blank, -/
theorem isBlank_of_head?_trim {text : List Char} {c : Char} (first : (trim text).head? = some c) :
    isBlank c = false := by
  have start : (trimStart text).head? = some c := by
    obtain ⟨behind, there⟩ := List.head?_eq_some_iff.mp first
    obtain ⟨cut, whole⟩ := trimEnd_isPrefix (trimStart text)
    rw [← whole, ← trim, there]
    rfl
  have solid := List.head?_dropWhile_not isBlank text
  rw [trimStart] at start
  rw [start] at solid
  exact solid

/-- and does not end with one. -/
theorem isBlank_of_getLast?_trim {text : List Char} {c : Char}
    (last : (trim text).getLast? = some c) : isBlank c = false := by
  have some : trim text ≠ [] := by
    intro nothing
    rw [nothing] at last
    cases last
  have solid := List.rdropWhile_last_not isBlank (trimStart text) some
  rw [List.getLast?_eq_some_getLast some] at last
  rw [← Option.some.inj last]
  exact Bool.eq_false_iff.mpr solid

/-- Without blanks at its ends a text comes through the trim. -/
theorem trim_eq_self {text : List Char} (starts : ∀ c, text.head? = some c → isBlank c = false)
    (stops : ∀ c, text.getLast? = some c → isBlank c = false) : trim text = text := by
  have front : trimStart text = text := by
    cases text with
    | nil => rfl
    | cons c rest => exact List.dropWhile_cons_of_neg (Bool.eq_false_iff.mp (starts c rfl))
  rw [trim, front, trimEnd_eq_rdropWhile, List.rdropWhile_eq_self_iff]
  intro some
  exact Bool.eq_false_iff.mp (stops _ (List.getLast?_eq_some_getLast some))

/-! ## The normal form -/

/-- The passes lead to a normal text, -/
theorem isNormalText_normalText (text : List Char) : IsNormalText (normalText text) where
  toIsCollapsed := (isCollapsed_collapse text).of_part (trim_isInfix _)
  starts _ first := isBlank_of_head?_trim first
  stops _ last := isBlank_of_getLast?_trim last

/-- and leave a normal text alone. -/
theorem normalText_eq_self {text : List Char} (normal : IsNormalText text) :
    normalText text = text := by
  rw [normalText, collapseBlanks_eq_self normal.toIsCollapsed,
    collapseSemicolons_eq_self normal.toIsCollapsed, trim_eq_self normal.starts normal.stops]

theorem isNormalText_iff {text : List Char} : IsNormalText text ↔ normalText text = text :=
  ⟨normalText_eq_self, fun fixed => fixed ▸ isNormalText_normalText text⟩

instance (text : List Char) : Decidable (IsNormalText text) :=
  decidable_of_iff _ isNormalText_iff.symm

/-! ## What is taken away -/

theorem marks_append (front rest : List Char) : marks (front ++ rest) = marks front ++ marks rest :=
  List.filter_append front rest

theorem marks_cons (c : Char) (rest : List Char) :
    marks (c :: rest) = marks [c] ++ marks rest := marks_append [c] rest

theorem marks_blank {c : Char} (blank : isBlank c = true) : marks [c] = [] := by
  rw [marks, List.filter_cons_of_neg (by simp [isMark, blank]), List.filter_nil]

theorem marks_trimStart (text : List Char) : marks (trimStart text) = marks text := by
  induction text with
  | nil => rfl
  | cons c rest inductionHypothesis =>
      rw [trimStart, List.dropWhile_cons]
      split
      · rename_i blank
        rw [← trimStart, inductionHypothesis, marks_cons c, marks_blank blank, List.nil_append]
      · rfl

theorem marks_trimEnd (text : List Char) : marks (trimEnd text) = marks text := by
  have flipped := marks_trimStart text.reverse
  rw [marks, marks, List.filter_reverse] at flipped
  rw [trimEnd, marks, List.filter_reverse, ← trimStart, flipped, List.reverse_reverse, marks]

theorem marks_collapseBlanks (afterBlank : Bool) (text : List Char) :
    marks (collapseBlanks afterBlank text) = marks text := by
  fun_induction collapseBlanks afterBlank text with
  | case1 => rfl
  | case2 c rest blank inductionHypothesis =>
      rw [inductionHypothesis, marks_cons c, marks_blank blank, List.nil_append]
  | case3 _ c rest blank _ inductionHypothesis =>
      rw [marks_cons ' ', marks_cons c, inductionHypothesis, marks_blank blank,
        marks_blank isBlank_space]
  | case4 _ c rest _ inductionHypothesis =>
      rw [marks_cons c, inductionHypothesis, ← marks_cons c]

theorem marks_dropSemicolons (text : List Char) : marks (dropSemicolons text) = marks text := by
  fun_induction dropSemicolons text with
  | case1 => rfl
  | case2 rest inductionHypothesis => exact inductionHypothesis
  | case3 c rest _ blank after next _ inductionHypothesis =>
      rw [marks_cons c, marks_blank blank, List.nil_append, ← marks_trimStart rest, trimStart, next]
      exact inductionHypothesis
  | case4 => rfl
  | case5 => rfl

theorem marks_collapseSemicolons (text : List Char) :
    marks (collapseSemicolons text) = marks text := by
  fun_induction collapseSemicolons text with
  | case1 => rfl
  | case2 rest _ inductionHypothesis =>
      rw [marks_cons, inductionHypothesis, marks_dropSemicolons, ← marks_cons]
  | case3 c rest _ inductionHypothesis =>
      rw [marks_cons, inductionHypothesis, ← marks_cons]

/-- Nothing but blanks and semicolons is taken away. -/
theorem marks_normalText (text : List Char) : marks (normalText text) = marks text := by
  rw [normalText, trim, marks_trimEnd, marks_trimStart, marks_collapseSemicolons,
    marks_collapseBlanks]

end Vivarium.Source
