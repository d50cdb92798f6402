import Vivarium.Proofs.Source.Line
import Vivarium.Source.Blueprint.Reader

/-!
# Braces that balance

A run of tokens is balanced if no prefix of it closes more blocks than it opens and
the whole closes as many.  The reader passes over such a run without leaving the
block in which it stands, so the block behind an opening brace is the balanced run
up to the closing brace.

Main definitions:

* `nesting`: the depth behind a run of tokens;
* `Balanced`: a run that closes what it opens, and nothing else.

Main statements:

* `balanced_iff`: the counts of braces in a balanced run;
* `splitBlock_of_balanced`: a balanced run in front of a brace is the block;
* `sections_of_balanced`: a section with a balanced block is found whole.
-/

namespace Vivarium.Source

/-! ## Balanced runs -/

/-- The number of open blocks behind a run of tokens, if no prefix of it closes a
block that neither it nor the given depth has opened. -/
def nesting : Nat → List Token → Option Nat
  | depth, [] => some depth
  | depth, t :: rest =>
      if t.closesBlock then if depth = 0 then none else nesting (depth - 1) rest
      else if t.opensBlock then nesting (depth + 1) rest
      else nesting depth rest

/-- A run of tokens closes exactly the blocks it opens. -/
def Balanced (tokens : List Token) : Prop := nesting 0 tokens = some 0

instance (tokens : List Token) : Decidable (Balanced tokens) :=
  inferInstanceAs (Decidable (nesting 0 tokens = some 0))

/-- A token that neither opens nor closes a block. -/
def Token.IsPlain (t : Token) : Prop := t.opensBlock = false ∧ t.closesBlock = false

/-- No brace both opens and closes a block. -/
theorem Token.opensBlock_of_closesBlock {t : Token} (closes : t.closesBlock = true) :
    t.opensBlock = false := by
  obtain ⟨-, text⟩ := Bool.and_eq_true_iff.mp closes
  rw [opensBlock, isPunctuation, is, beq_iff_eq.mp text]
  exact Bool.and_false _

/-- A token adds the block it opens to the depth and takes away the one it closes. -/
theorem nesting_cons (depth : Nat) (t : Token) (rest : List Token) :
    nesting depth (t :: rest) =
      if depth + (if t.opensBlock = true then 1 else 0) < (if t.closesBlock = true then 1 else 0)
      then none
      else nesting (depth + (if t.opensBlock = true then 1 else 0) -
        (if t.closesBlock = true then 1 else 0)) rest := by
  rw [nesting]
  by_cases closes : t.closesBlock = true
  · simp [closes, Token.opensBlock_of_closesBlock closes]
  · by_cases opens : t.opensBlock = true <;> simp [closes, opens]

/-- The depth behind a run is known if no prefix closes more blocks than are open, and
it is the depth in front with the opened blocks more and the closed ones less. -/
theorem nesting_eq_some_iff {depth reached : Nat} {tokens : List Token} :
    nesting depth tokens = some reached ↔
      (∀ front, front <+: tokens →
        front.countP (·.closesBlock) ≤ depth + front.countP (·.opensBlock)) ∧
      reached + tokens.countP (·.closesBlock) = depth + tokens.countP (·.opensBlock) := by
  induction tokens generalizing depth with
  | nil =>
      simp only [nesting, Option.some.injEq, List.prefix_nil, List.countP_nil, Nat.add_zero]
      constructor
      · rintro rfl
        exact ⟨fun front nothing => by simp [nothing], rfl⟩
      · exact fun counts => counts.2.symm
  | cons t rest inductionHypothesis =>
      rw [nesting_cons]
      simp only [List.countP_cons]
      generalize opened : (if t.opensBlock = true then 1 else 0) = opens
      generalize closed : (if t.closesBlock = true then 1 else 0) = closes
      -- the shortest prefix is the first token alone; all others go on from the depth behind it
      by_cases tooMany : depth + opens < closes
      · rw [if_pos tooMany]
        constructor
        · intro impossible
          cases impossible
        · rintro ⟨enough, -⟩
          have alone := enough [t] (List.cons_prefix_cons.mpr ⟨rfl, List.nil_prefix⟩)
          simp only [List.countP_cons, List.countP_nil, opened, closed] at alone
          omega
      · rw [if_neg tooMany, inductionHypothesis]
        constructor
        · rintro ⟨enough, total⟩
          refine ⟨?_, by omega⟩
          intro front inFront
          rcases List.prefix_cons_iff.mp inFront with rfl | ⟨front, rfl, inRest⟩
          · exact Nat.zero_le _
          · have fewer := enough front inRest
            simp only [List.countP_cons, opened, closed]
            omega
        · rintro ⟨enough, total⟩
          refine ⟨?_, by omega⟩
          intro front inRest
          have fewer := enough (t :: front) (List.cons_prefix_cons.mpr ⟨rfl, inRest⟩)
          simp only [List.countP_cons, opened, closed] at fewer
          omega

/-- A run is balanced if no prefix closes more blocks than it opens and the whole run
closes as many. -/
theorem balanced_iff {tokens : List Token} :
    Balanced tokens ↔
      (∀ front, front <+: tokens →
        front.countP (·.closesBlock) ≤ front.countP (·.opensBlock)) ∧
      tokens.countP (·.closesBlock) = tokens.countP (·.opensBlock) := by
  rw [Balanced, nesting_eq_some_iff]
  simp only [Nat.zero_add]

-- braces in strings and comments are no tokens of their own
example : Balanced (tokenize "when \x7b say(\"\x7d\"); \x7d // \x7b\x7b") := by decide +kernel

theorem nesting_append (depth : Nat) (first second : List Token) :
    nesting depth (first ++ second) = (nesting depth first).bind (nesting · second) := by
  induction first generalizing depth with
  | nil => rfl
  | cons t rest inductionHypothesis =>
      simp only [List.cons_append, nesting, inductionHypothesis]
      split
      · split <;> rfl
      · split <;> rfl

/-- What balances inside some blocks balances inside more of them. -/
theorem nesting_add {depth reached : Nat} {tokens : List Token}
    (counted : nesting depth tokens = some reached) (outer : Nat) :
    nesting (depth + outer) tokens = some (reached + outer) := by
  induction tokens generalizing depth with
  | nil =>
      cases counted
      rfl
  | cons t rest inductionHypothesis =>
      rw [nesting] at counted ⊢
      by_cases closes : t.closesBlock = true
      · rw [if_pos closes] at counted ⊢
        by_cases outside : depth = 0
        · -- no block is open that the brace could close
          rw [if_pos outside] at counted
          cases counted
        · rw [if_neg outside] at counted
          rw [if_neg (by omega), ← inductionHypothesis counted]
          congr 1
          omega
      · rw [if_neg closes] at counted ⊢
        by_cases opens : t.opensBlock = true
        · rw [if_pos opens] at counted ⊢
          rw [Nat.add_right_comm]
          exact inductionHypothesis counted
        · rw [if_neg opens] at counted ⊢
          exact inductionHypothesis counted

/-- The depth depends on the shapes of the tokens only. -/
theorem nesting_congr {first second : List Token}
    (same : first.map Token.shape = second.map Token.shape) (depth : Nat) :
    nesting depth first = nesting depth second := by
  induction first generalizing second depth with
  | nil =>
      rw [List.map_nil] at same
      rw [List.map_eq_nil_iff.mp same.symm]
  | cons t rest inductionHypothesis =>
      obtain ⟨t', rest', rfl, sameToken, sameRest⟩ := List.map_eq_cons_iff.mp same.symm
      obtain ⟨sameKind, sameText⟩ := Prod.mk.inj sameToken
      have sameMark : ∀ mark, t'.isPunctuation mark = t.isPunctuation mark := by
        intro mark
        show (t'.kind == _ && t'.text == _) = (t.kind == _ && t.text == _)
        rw [sameKind, sameText]
      simp only [nesting, Token.closesBlock, Token.opensBlock, sameMark,
        inductionHypothesis sameRest.symm]

namespace Balanced

theorem nil : Balanced [] := rfl

theorem append {first second : List Token} (one : Balanced first) (other : Balanced second) :
    Balanced (first ++ second) := by
  unfold Balanced at one other ⊢
  rw [nesting_append, one]
  exact other

theorem congr {first second : List Token} (balanced : Balanced first)
    (same : first.map Token.shape = second.map Token.shape) : Balanced second :=
  (nesting_congr same 0).symm.trans balanced

/-- Tokens that are no braces are balanced. -/
theorem of_plain {tokens : List Token} (plain : ∀ t ∈ tokens, t.IsPlain) : Balanced tokens := by
  induction tokens with
  | nil => exact nil
  | cons t rest inductionHypothesis =>
      obtain ⟨opensNot, closesNot⟩ := plain t List.mem_cons_self
      unfold Balanced
      rw [nesting, closesNot, opensNot]
      exact inductionHypothesis fun t member => plain t (List.mem_cons_of_mem _ member)

/-- A balanced run between braces is balanced. -/
theorem enclose {inside : List Token} (balanced : Balanced inside) {opening closing : Token}
    (opens : opening.opensBlock = true) (opensOnly : opening.closesBlock = false)
    (closes : closing.closesBlock = true) :
    Balanced (opening :: (inside ++ [closing])) := by
  unfold Balanced
  rw [nesting, opensOnly, opens]
  show nesting 1 (inside ++ [closing]) = some 0
  rw [nesting_append, nesting_add balanced 1]
  show nesting 1 [closing] = some 0
  rw [nesting, closes]
  rfl

end Balanced

/-! ## Blocks -/

theorem splitClose_append_of_nesting {depth reached : Nat} {inside : List Token}
    (counted : nesting depth inside = some reached) (rest : List Token) :
    splitClose depth (inside ++ rest) =
      (inside ++ (splitClose reached rest).1, (splitClose reached rest).2) := by
  induction inside generalizing depth with
  | nil =>
      cases counted
      rfl
  | cons t others inductionHypothesis =>
      rw [nesting] at counted
      rw [List.cons_append]
      by_cases closes : t.closesBlock = true
      · rw [if_pos closes] at counted
        cases depth with
        | zero => cases counted
        | succ outer =>
            -- the brace closes an inner block, so that the search goes on behind it
            rw [if_neg (Nat.succ_ne_zero outer), Nat.add_one_sub_one] at counted
            simp [splitClose, closes, inductionHypothesis counted]
      · rw [if_neg closes] at counted
        by_cases opens : t.opensBlock = true
        · rw [if_pos opens] at counted
          simp [splitClose, closes, opens, inductionHypothesis counted]
        · rw [if_neg opens] at counted
          simp [splitClose, closes, opens, inductionHypothesis counted]

/-- The block behind a brace is the balanced run up to the brace that closes it. -/
theorem splitBlock_of_balanced {inside : List Token} (balanced : Balanced inside)
    {closing : Token} (closes : closing.closesBlock = true) (limit : Nat) (opening : Token)
    (rest : List Token) :
    splitBlock limit opening (inside ++ closing :: rest) =
      (⟨opening.stop, inside, closing.offset⟩, rest) := by
  have parts : splitClose 0 (inside ++ closing :: rest) = (inside, closing :: rest) := by
    rw [splitClose_append_of_nesting balanced]
    simp [splitClose, closes]
  rw [splitBlock, parts]

/-- A token that may stand between a section keyword and the block. -/
def Token.IsHeading (t : Token) : Prop := t.opensBlock = false ∧ t.endsHeader = false

/-- Words that are not reserved, numbers and colons may stand in a header. -/
theorem Token.IsHeading.isPlain {t : Token} (heading : t.IsHeading) : t.IsPlain := by
  refine ⟨heading.1, ?_⟩
  obtain ⟨-, goesOn⟩ := heading
  simp only [endsHeader, Bool.or_eq_false_iff] at goesOn
  exact goesOn.1.2

theorem splitHeader?_of_heading {header : List Token} (heading : ∀ t ∈ header, t.IsHeading)
    {opening : Token} (opens : opening.opensBlock = true) (after : List Token) :
    splitHeader? (header ++ opening :: after) = some (header, opening, after) := by
  induction header with
  | nil => rw [List.nil_append, splitHeader?, if_pos opens]
  | cons t rest inductionHypothesis =>
      obtain ⟨opensNot, goesOn⟩ := heading t List.mem_cons_self
      rw [List.cons_append, splitHeader?, opensNot, goesOn,
        inductionHypothesis fun t member => heading t (List.mem_cons_of_mem _ member)]
      rfl

/-- A section whose block is balanced is found whole, and the sections behind it as
if it were not there. -/
theorem sections_of_balanced {keyword opening closing : Token} {header inside : List Token}
    (starts : startsSection keyword = true) (heading : ∀ t ∈ header, t.IsHeading)
    (opens : opening.opensBlock = true) (balanced : Balanced inside)
    (closes : closing.closesBlock = true) (limit : Nat) (rest : List Token) :
    sections limit (keyword :: (header ++ opening :: (inside ++ closing :: rest))) =
      ⟨keyword, header, ⟨opening.stop, inside, closing.offset⟩⟩ :: sections limit rest := by
  have reserved : keyword.kind = .keyword := by
    simp only [startsSection, Bool.and_eq_true, decide_eq_true_eq] at starts
    exact starts.1
  have opensNot : keyword.opensBlock = false := by
    simp [Token.opensBlock, Token.isPunctuation, Token.is, reserved]
  have found := splitHeader?_of_heading heading opens (inside ++ closing :: rest)
  rw [sections]
  -- the recursion asks for the equation of the match, so that `found` cannot be rewritten with
  rw [if_neg (Bool.eq_false_iff.mp opensNot), if_pos starts]
  split
  · rename_i header' opening' after found'
    have same : header' = header ∧ opening' = opening ∧ after = inside ++ closing :: rest := by
      simpa using found'.symm.trans found
    obtain ⟨rfl, rfl, rfl⟩ := same
    simp only [splitBlock_of_balanced balanced closes]
  · rename_i missing
    rw [found] at missing
    cases missing

end Vivarium.Source
