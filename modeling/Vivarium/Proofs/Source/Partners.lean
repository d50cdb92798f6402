import Mathlib.Data.List.Basic
import Vivarium.Proofs.Source.Matching

/-!
# Braces with a partner and without

Two braces are partners if the first opens a block, the second closes one, and what stands
between them is balanced.  So it can be told which braces of a run have a partner without going
through the run: no brace has two of them, and those that have none are alone.

The check goes through the run once and keeps the braces that are still open.  What it leaves in
the end shows how the run is made: balanced pieces with closing braces between them, and then
balanced pieces with opening braces between them.  In such a run just these braces are alone.

Main definitions:

* `ArePartners`, `HasPartner`: which braces belong together;
* `loneBraces`: the braces without a partner;
* `Leaves`: a run made of balanced pieces and the braces that are left of it.

Main statements:

* `ArePartners.closing_unique`, `ArePartners.opening_unique`: no brace has two partners;
* `leaves_unmatchedBraces`: what the check leaves of a run;
* `Leaves.loneBraces_eq`: the braces that are left are those without a partner.
-/

namespace Vivarium.Source

/-! ## Partners -/

/-- The first brace opens a block and the second one closes it: what stands between them is
balanced. -/
structure ArePartners (tokens : List Token) (first second : Nat) : Prop where
  ordered : first < second
  opens : (tokens[first]?).any (·.opensBlock) = true
  closes : (tokens[second]?).any (·.closesBlock) = true
  between : Balanced ((tokens.take second).drop (first + 1))

instance (tokens : List Token) (first second : Nat) :
    Decidable (ArePartners tokens first second) :=
  decidable_of_iff
    (first < second ∧ (tokens[first]?).any (·.opensBlock) = true ∧
      (tokens[second]?).any (·.closesBlock) = true ∧
      Balanced ((tokens.take second).drop (first + 1)))
    ⟨fun ⟨ordered, opens, closes, between⟩ => ⟨ordered, opens, closes, between⟩,
      fun ⟨ordered, opens, closes, between⟩ => ⟨ordered, opens, closes, between⟩⟩

/-- The token opens or closes a block. -/
def Token.isBrace (t : Token) : Bool := t.opensBlock || t.closesBlock

/-- The brace at the place has a partner in front of it or behind it. -/
def HasPartner (tokens : List Token) (place : Nat) : Prop :=
  ∃ other < tokens.length, ArePartners tokens place other ∨ ArePartners tokens other place

instance (tokens : List Token) (place : Nat) : Decidable (HasPartner tokens place) :=
  inferInstanceAs (Decidable (∃ other < tokens.length,
    ArePartners tokens place other ∨ ArePartners tokens other place))

/-- The braces of a kind that have no partner, in their order. -/
def loneBraces (kind : Token → Bool) (tokens : List Token) : List Token :=
  (tokens.zipIdx.filter fun brace => kind brace.1 && !decide (HasPartner tokens brace.2)).map
    Prod.fst

-- the first brace closes nothing, and the third one is never closed
example : loneBraces Token.closesBlock (tokenize "\x7d \x7b \x7d \x7b") =
    [⟨.punctuation, "\x7d", 1, 0, 0, 1⟩] := by decide +kernel

variable {tokens front rest : List Token}

/-- Partners with the tokens in front of them, between them and behind them. -/
theorem arePartners_iff {first second : Nat} :
    ArePartners tokens first second ↔
      ∃ front opening inside closing behind,
        tokens = front ++ opening :: (inside ++ closing :: behind) ∧
        front.length = first ∧ front.length + 1 + inside.length = second ∧
        opening.opensBlock = true ∧ closing.closesBlock = true ∧ Balanced inside := by
  constructor
  · rintro ⟨ordered, opens, closes, between⟩
    obtain ⟨opening, found, opens⟩ := (Option.any_eq_true _ _).mp opens
    obtain ⟨closing, found', closes⟩ := (Option.any_eq_true _ _).mp closes
    obtain ⟨bounded, rfl⟩ := List.getElem?_eq_some_iff.mp found
    obtain ⟨bounded', rfl⟩ := List.getElem?_eq_some_iff.mp found'
    refine ⟨tokens.take first, tokens[first], (tokens.take second).drop (first + 1),
      tokens[second], tokens.drop (second + 1), ?_, ?_, ?_, opens, closes, between⟩
    · have behind : tokens.drop (first + 1) =
          (tokens.take second).drop (first + 1) ++ tokens.drop second := by
        conv_lhs => rw [← List.take_append_drop second tokens]
        rw [List.drop_append_of_le_length (by rw [List.length_take]; omega)]
      rw [← List.drop_eq_getElem_cons bounded', ← behind, ← List.drop_eq_getElem_cons bounded,
        List.take_append_drop]
    · rw [List.length_take]
      omega
    · rw [List.length_drop, List.length_take, List.length_take]
      omega
  · rintro ⟨front, opening, inside, closing, behind, rfl, rfl, rfl, opens, closes, between⟩
    have split : front ++ opening :: (inside ++ closing :: behind) =
        (front ++ opening :: inside) ++ closing :: behind := by simp
    have size : (front ++ opening :: inside).length = front.length + 1 + inside.length := by
      simp only [List.length_append, List.length_cons]
      omega
    refine ⟨by omega, ?_, ?_, ?_⟩
    · rw [List.getElem?_append_right (Nat.le_refl _), Nat.sub_self]
      exact opens
    · rw [split, List.getElem?_append_right (Nat.le_of_eq size), size, Nat.sub_self]
      exact closes
    · rw [split, List.take_left' size, List.drop_append, List.drop_of_length_le (by omega)]
      simpa using between

namespace ArePartners

variable {first second other : Nat}

theorem lt_length (partners : ArePartners tokens first second) : second < tokens.length := by
  obtain ⟨closing, found, -⟩ := (Option.any_eq_true _ _).mp partners.closes
  exact (List.getElem?_eq_some_iff.mp found).1

theorem hasPartner_opening (partners : ArePartners tokens first second) :
    HasPartner tokens first :=
  ⟨second, partners.lt_length, Or.inl partners⟩

theorem hasPartner_closing (partners : ArePartners tokens first second) :
    HasPartner tokens second :=
  ⟨first, Nat.lt_trans partners.ordered partners.lt_length, Or.inr partners⟩

/-- Partners remain partners, whatever stands behind them. -/
theorem append (partners : ArePartners front first second) (rest : List Token) :
    ArePartners (front ++ rest) first second := by
  obtain ⟨before, opening, inside, closing, behind, rfl, places⟩ := arePartners_iff.mp partners
  exact arePartners_iff.mpr
    ⟨before, opening, inside, closing, behind ++ rest, by simp, places⟩

/-- Partners remain partners, whatever stands in front of them. -/
theorem behind (front : List Token) (partners : ArePartners rest first second) :
    ArePartners (front ++ rest) (front.length + first) (front.length + second) := by
  obtain ⟨before, opening, inside, closing, behind, rfl, rfl, rfl, braces⟩ :=
    arePartners_iff.mp partners
  refine arePartners_iff.mpr ⟨front ++ before, opening, inside, closing, behind, by simp, ?_, ?_,
    braces⟩
  · rw [List.length_append]
  · rw [List.length_append]
    omega

/-- What stands behind both does not count. -/
theorem of_append (partners : ArePartners (front ++ rest) first second)
    (within : second < front.length) : ArePartners front first second := by
  obtain ⟨ordered, opens, closes, between⟩ := partners
  rw [List.getElem?_append_left (by omega)] at opens closes
  rw [List.take_append_of_le_length (by omega)] at between
  exact ⟨ordered, opens, closes, between⟩

theorem opens_of_getElem? (partners : ArePartners tokens first second) {t : Token}
    (found : tokens[first]? = some t) : t.opensBlock = true := by
  have opens := partners.opens
  rwa [found] at opens

theorem closes_of_getElem? (partners : ArePartners tokens first second) {t : Token}
    (found : tokens[second]? = some t) : t.closesBlock = true := by
  have closes := partners.closes
  rwa [found] at closes

/-- A block ends at the first brace that closes it. -/
theorem closing_le (partners : ArePartners tokens first second)
    (further : ArePartners tokens first other) : other ≤ second := by
  obtain ⟨before, opening, inside, closing, behind, rfl, rfl, rfl, -, closes, balanced⟩ :=
    arePartners_iff.mp partners
  refine Nat.le_of_not_lt fun later => ?_
  obtain ⟨more, rfl⟩ := Nat.exists_eq_add_of_lt later
  -- the brace that closes the block stands inside of the longer run
  have longer : ((before ++ opening :: (inside ++ closing :: behind)).take
      (before.length + 1 + inside.length + more + 1)).drop (before.length + 1) =
        inside ++ closing :: behind.take more := by
    have size : before.length + 1 + inside.length + more + 1 - (before.length + 1) =
        inside.length + (more + 1) := by omega
    rw [List.drop_take, size, List.drop_length_add_append, List.drop_succ_cons, List.drop_zero,
      List.take_length_add_append, List.take_succ_cons]
  have between := further.between
  rw [longer, Balanced, nesting_append_of_balanced balanced, nesting_zero_of_closes _ closes]
    at between
  cases between

/-- A brace closes the last block that is open. -/
theorem le_opening (partners : ArePartners tokens first second)
    (further : ArePartners tokens other second) : first ≤ other := by
  obtain ⟨before, opening, inside, closing, behind, rfl, rfl, rfl, opens, -, balanced⟩ :=
    arePartners_iff.mp partners
  refine Nat.le_of_not_lt fun earlier => ?_
  -- the block that is open stays open in the longer run
  have longer : ((before ++ opening :: (inside ++ closing :: behind)).take
      (before.length + 1 + inside.length)).drop (other + 1) =
        before.drop (other + 1) ++ opening :: inside := by
    rw [Nat.add_assoc, List.take_length_add_append, Nat.add_comm 1, List.take_succ_cons,
      List.take_left, List.drop_append_of_le_length earlier]
  have between := further.between
  rw [longer, Balanced, nesting_append] at between
  obtain ⟨depth, -, reached⟩ := Option.bind_eq_some_iff.mp between
  have deeper := nesting_add balanced (depth + 1)
  rw [nesting_of_opens _ _ opens, ← Nat.zero_add (depth + 1), deeper] at reached
  cases reached

theorem closing_unique (partners : ArePartners tokens first second)
    (further : ArePartners tokens first other) : second = other :=
  Nat.le_antisymm (further.closing_le partners) (partners.closing_le further)

theorem opening_unique (partners : ArePartners tokens first second)
    (further : ArePartners tokens other second) : first = other :=
  Nat.le_antisymm (partners.le_opening further) (further.le_opening partners)

end ArePartners

section Braces

variable {place : Nat} {t : Token} (found : tokens[place]? = some t)
include found

/-- An opening brace has its partner behind it. -/
theorem hasPartner_iff_of_opens (opens : t.opensBlock = true) :
    HasPartner tokens place ↔ ∃ other, ArePartners tokens place other := by
  constructor
  · rintro ⟨other, -, partners | partners⟩
    · exact ⟨other, partners⟩
    · have closes := partners.closes_of_getElem? found
      rw [Token.closesBlock_of_opensBlock opens] at closes
      cases closes
  · rintro ⟨other, partners⟩
    exact partners.hasPartner_opening

/-- A closing brace has its partner in front of it. -/
theorem hasPartner_iff_of_closes (closes : t.closesBlock = true) :
    HasPartner tokens place ↔ ∃ other, ArePartners tokens other place := by
  constructor
  · rintro ⟨other, -, partners | partners⟩
    · have opens := partners.opens_of_getElem? found
      rw [Token.opensBlock_of_closesBlock closes] at opens
      cases opens
    · exact ⟨other, partners⟩
  · rintro ⟨other, partners⟩
    exact partners.hasPartner_closing

end Braces

theorem HasPartner.append {place : Nat} (paired : HasPartner front place) (rest : List Token) :
    HasPartner (front ++ rest) place := by
  obtain ⟨other, -, partners | partners⟩ := paired
  · exact (partners.append rest).hasPartner_opening
  · exact (partners.append rest).hasPartner_closing

/-- The tokens in front of a place and behind it. -/
theorem exists_split {place : Nat} {t : Token} (found : tokens[place]? = some t) :
    ∃ front behind, tokens = front ++ t :: behind ∧ front.length = place := by
  obtain ⟨bounded, rfl⟩ := List.getElem?_eq_some_iff.mp found
  refine ⟨tokens.take place, tokens.drop (place + 1), ?_, List.length_take_of_le (by omega)⟩
  rw [← List.drop_eq_getElem_cons bounded, List.take_append_drop]

/-! ## What is left of a run -/

/-- A run made of balanced pieces, with closing braces and then opening braces between them.
These are left when all the others have found a partner. -/
inductive Leaves : List Token → List Token → List Token → Prop where
  | balanced {run : List Token} (balanced : Balanced run) : Leaves run [] []
  | closing {front closing run : List Token} {brace : Token} (before : Leaves front closing [])
      (closes : brace.closesBlock = true) (balanced : Balanced run) :
      Leaves (front ++ brace :: run) (closing ++ [brace]) []
  | opening {front closing opening run : List Token} {brace : Token}
      (before : Leaves front closing opening) (opens : brace.opensBlock = true)
      (balanced : Balanced run) :
      Leaves (front ++ brace :: run) closing (opening ++ [brace])

namespace Leaves

variable {closing opening pending : List Token} {brace : Token}

/-- A balanced run behind another one leaves nothing more. -/
theorem append_balanced (leaves : Leaves front closing opening) {run : List Token}
    (balanced : Balanced run) : Leaves (front ++ run) closing opening := by
  cases leaves with
  | balanced piece => exact .balanced (piece.append balanced)
  | closing before closes piece =>
      rw [List.append_assoc, List.cons_append]
      exact .closing before closes (piece.append balanced)
  | opening before opens piece =>
      rw [List.append_assoc, List.cons_append]
      exact .opening before opens (piece.append balanced)

/-- Behind the last brace that stays open there is a balanced piece. -/
theorem of_concat (leaves : Leaves tokens closing (opening ++ [brace])) :
    ∃ front run, tokens = front ++ brace :: run ∧ Leaves front closing opening ∧
      brace.opensBlock = true ∧ Balanced run := by
  generalize left : opening ++ [brace] = all at leaves
  cases leaves with
  | balanced => simp at left
  | closing => simp at left
  | opening before opens balanced =>
      obtain ⟨rfl, same⟩ := List.append_inj' left rfl
      cases same
      exact ⟨_, _, rfl, before, opens, balanced⟩

/-- The check goes on behind what it has left so far. -/
theorem append_unmatchedBraces (leaves : Leaves front closing pending.reverse)
    (tokens : List Token) :
    Leaves (front ++ tokens) (closing ++ (unmatchedBraces pending tokens).1)
      (unmatchedBraces pending tokens).2 := by
  induction tokens generalizing front closing pending with
  | nil => simpa [unmatchedBraces] using leaves
  | cons t rest inductionHypothesis =>
      have next : front ++ t :: rest = (front ++ [t]) ++ rest := by simp
      rw [next]
      rcases t.brace_cases with opens | closes | plain
      · have further : Leaves (front ++ [t]) closing (t :: pending).reverse := by
          rw [List.reverse_cons]
          exact .opening leaves opens .nil
        simpa [unmatchedBraces, opens] using inductionHypothesis further
      · have opensNot := Token.opensBlock_of_closesBlock closes
        cases pending with
        | nil =>
            have further : Leaves (front ++ [t]) (closing ++ [t]) [] :=
              .closing leaves closes .nil
            have others := @inductionHypothesis _ _ [] further
            simpa [unmatchedBraces, opensNot, closes] using others
        | cons brace outer =>
            -- the block that was opened last is closed, and balanced with its braces
            rw [List.reverse_cons] at leaves
            obtain ⟨before, run, rfl, left, opens, balanced⟩ := leaves.of_concat
            have block := balanced.enclose opens (Token.closesBlock_of_opensBlock opens) closes
            have further := left.append_balanced block
            rw [← List.cons_append, ← List.append_assoc] at further
            simpa [unmatchedBraces, opensNot, closes] using inductionHypothesis further
      · have piece : Balanced [t] := .of_plain (List.forall_mem_singleton.mpr plain)
        have further := leaves.append_balanced piece
        simpa [unmatchedBraces, plain.1, plain.2] using inductionHypothesis further

end Leaves

/-- What the check leaves of a run. -/
theorem leaves_unmatchedBraces (tokens : List Token) :
    Leaves tokens (unmatchedBraces [] tokens).1 (unmatchedBraces [] tokens).2 := by
  have nothing : Leaves [] [] ([] : List Token).reverse := .balanced .nil
  have leaves := nothing.append_unmatchedBraces tokens
  rwa [List.nil_append, List.nil_append] at leaves

/-! ## Who has a partner -/

namespace Leaves

variable {closing opening : List Token}

/-- Blocks stay open for the braces that are left, unless one of the closing ones comes first. -/
theorem nesting_cases (leaves : Leaves tokens closing opening) :
    nesting 0 tokens = none ∨ nesting 0 tokens = some opening.length := by
  induction leaves with
  | balanced balanced => exact Or.inr balanced
  | closing before closes balanced inductionHypothesis =>
      left
      rw [nesting_append]
      rcases inductionHypothesis with below | flat
      · rw [below]
        rfl
      · rw [flat]
        exact nesting_zero_of_closes _ closes
  | @opening front closing opening run brace before opens balanced inductionHypothesis =>
      rw [nesting_append]
      rcases inductionHypothesis with below | deep
      · rw [below]
        exact Or.inl rfl
      · right
        have behind := nesting_add balanced (opening.length + 1)
        rw [Nat.zero_add] at behind
        rw [deep, List.length_append, List.length_singleton, ← behind]
        exact nesting_of_opens _ _ opens

end Leaves

/-- Where a block is open, the last one that was opened has a balanced inside so far. -/
theorem exists_opening {depth : Nat} (counted : nesting 0 tokens = some (depth + 1)) :
    ∃ front opening inside, tokens = front ++ opening :: inside ∧ opening.opensBlock = true ∧
      Balanced inside := by
  have leaves := leaves_unmatchedBraces tokens
  have cases := leaves.nesting_cases
  rw [counted] at cases
  generalize (unmatchedBraces [] tokens).1 = closing at leaves
  generalize (unmatchedBraces [] tokens).2 = opening at leaves cases
  cases leaves with
  | balanced => simp at cases
  | closing => simp at cases
  | opening before opens balanced => exact ⟨_, _, _, rfl, opens, balanced⟩

section Balanced

variable (balanced : Balanced rest) {place : Nat} {t : Token}
include balanced

/-- An opening brace of a balanced run has a partner in it. -/
theorem exists_partner_of_opens (found : rest[place]? = some t) (opens : t.opensBlock = true) :
    ∃ other, ArePartners rest place other := by
  obtain ⟨front, behind, rfl, rfl⟩ := exists_split found
  rw [Balanced, nesting_append] at balanced
  obtain ⟨depth, -, closed⟩ := Option.bind_eq_some_iff.mp balanced
  rw [nesting_of_opens _ _ opens, ← Nat.zero_add (depth + 1)] at closed
  obtain ⟨inside, closing, others, rfl, between, closes, -⟩ :=
    exists_closing closed (Nat.zero_le depth)
  exact ⟨_, arePartners_iff.mpr
    ⟨front, t, inside, closing, others, rfl, rfl, rfl, opens, closes, between⟩⟩

/-- A closing brace of a balanced run has a partner in it. -/
theorem exists_partner_of_closes (found : rest[place]? = some t) (closes : t.closesBlock = true) :
    ∃ other, ArePartners rest other place := by
  obtain ⟨front, behind, rfl, rfl⟩ := exists_split found
  rw [Balanced, nesting_append] at balanced
  obtain ⟨depth, counted, closed⟩ := Option.bind_eq_some_iff.mp balanced
  cases depth with
  | zero =>
      rw [nesting_zero_of_closes _ closes] at closed
      cases closed
  | succ outer =>
      obtain ⟨before, opening, inside, rfl, opens, between⟩ := exists_opening counted
      refine ⟨before.length, arePartners_iff.mpr
        ⟨before, opening, inside, t, behind, by simp, rfl, ?_, opens, closes, between⟩⟩
      rw [List.length_append, List.length_cons, Nat.add_right_comm, Nat.add_assoc]

/-- A brace of a balanced run has its partner in it, whatever stands in front. -/
theorem hasPartner_behind (front : List Token) (found : rest[place]? = some t)
    (brace : t.opensBlock = true ∨ t.closesBlock = true) :
    HasPartner (front ++ rest) (front.length + place) := by
  rcases brace with opens | closes
  · obtain ⟨other, partners⟩ := exists_partner_of_opens balanced found opens
    exact (partners.behind front).hasPartner_opening
  · obtain ⟨other, partners⟩ := exists_partner_of_closes balanced found closes
    exact (partners.behind front).hasPartner_closing

/-- So no brace in front has a partner in it. -/
theorem ArePartners.lt_of_balanced {first second : Nat}
    (partners : ArePartners (front ++ rest) first second) (before : first < front.length) :
    second < front.length := by
  refine Nat.lt_of_not_le fun behind => ?_
  obtain ⟨place, rfl⟩ := Nat.exists_eq_add_of_le behind
  obtain ⟨closing, found, closes⟩ := (Option.any_eq_true _ _).mp partners.closes
  rw [List.getElem?_append_right behind, Nat.add_sub_cancel_left] at found
  obtain ⟨other, inside⟩ := exists_partner_of_closes balanced found closes
  have same := partners.opening_unique (inside.behind front)
  omega

end Balanced

/-- A closing brace looks for its partner in front of it. -/
theorem hasPartner_append_of_closes {place : Nat} {t : Token} (found : front[place]? = some t)
    (closes : t.closesBlock = true) (rest : List Token) :
    HasPartner (front ++ rest) place ↔ HasPartner front place := by
  have within := (List.getElem?_eq_some_iff.mp found).1
  refine ⟨fun paired => ?_, fun paired => paired.append rest⟩
  have found' : (front ++ rest)[place]? = some t :=
    (List.getElem?_append_left within).trans found
  obtain ⟨other, partners⟩ := (hasPartner_iff_of_closes found' closes).mp paired
  exact (partners.of_append within).hasPartner_closing

/-- An opening brace finds no partner in a balanced piece behind a brace that opens another
block. -/
theorem hasPartner_append_of_opens {place : Nat} {t brace : Token} {run : List Token}
    (found : front[place]? = some t) (opens : t.opensBlock = true)
    (deeper : brace.opensBlock = true) (balanced : Balanced run) :
    HasPartner (front ++ brace :: run) place ↔ HasPartner front place := by
  have within := (List.getElem?_eq_some_iff.mp found).1
  refine ⟨fun paired => ?_, fun paired => paired.append _⟩
  have found' : (front ++ brace :: run)[place]? = some t :=
    (List.getElem?_append_left within).trans found
  obtain ⟨other, partners⟩ := (hasPartner_iff_of_opens found' opens).mp paired
  have apart : other ≠ front.length := by
    rintro rfl
    have closes := partners.closes_of_getElem? (t := brace) (by simp)
    rw [Token.closesBlock_of_opensBlock deeper] at closes
    cases closes
  have near : other < (front ++ [brace]).length := by
    rw [List.append_cons] at partners
    exact partners.lt_of_balanced balanced (by rw [List.length_append]; omega)
  rw [List.length_append, List.length_singleton] at near
  exact (partners.of_append (by omega)).hasPartner_opening

/-! ## Lone braces -/

theorem mem_loneBraces {kind : Token → Bool} {t : Token} :
    t ∈ loneBraces kind tokens ↔
      ∃ place, tokens[place]? = some t ∧ kind t = true ∧ ¬HasPartner tokens place := by
  simp only [loneBraces, List.mem_map, List.mem_filter, Prod.exists, exists_and_right,
    exists_eq_right, List.mem_zipIdx_iff_getElem?, Bool.and_eq_true, Bool.not_eq_true',
    decide_eq_false_iff_not]

/-- All braces of a kind have a partner if none is alone. -/
theorem hasPartner_of_loneBraces_eq_nil {kind : Token → Bool}
    (none : loneBraces kind tokens = []) {place : Nat} {t : Token}
    (found : tokens[place]? = some t) (brace : kind t = true) : HasPartner tokens place := by
  by_contra alone
  have member : t ∈ loneBraces kind tokens := mem_loneBraces.mpr ⟨place, found, brace, alone⟩
  rw [none] at member
  cases member

/-- A balanced piece at the end adds no lone braces, and the token in front of it one at most. -/
theorem loneBraces_append {kind : Token → Bool} {t : Token} {run : List Token}
    (balanced : Balanced run) (braces : ∀ t, kind t = true → t.isBrace = true)
    (same : ∀ place x, front[place]? = some x → kind x = true →
      (HasPartner (front ++ t :: run) place ↔ HasPartner front place)) :
    loneBraces kind (front ++ t :: run) = loneBraces kind front ++
      if kind t = true ∧ ¬HasPartner (front ++ t :: run) front.length then [t] else [] := by
  have divided : front ++ t :: run = (front ++ [t]) ++ run := List.append_cons _ _ _
  have before : (front.zipIdx.filter fun brace =>
      kind brace.1 && !decide (HasPartner (front ++ t :: run) brace.2)) =
        front.zipIdx.filter fun brace => kind brace.1 && !decide (HasPartner front brace.2) := by
    refine List.filter_congr ?_
    rintro ⟨x, place⟩ member
    by_cases brace : kind x = true
    · rw [decide_eq_decide.mpr (same place x (List.mem_zipIdx_iff_getElem?.mp member) brace)]
    · rw [Bool.eq_false_iff.mpr brace]
      rfl
  have behind : ((run.zipIdx (front.length + 1)).filter fun brace =>
      kind brace.1 && !decide (HasPartner (front ++ t :: run) brace.2)) = [] := by
    refine List.filter_eq_nil_iff.mpr ?_
    rintro ⟨x, place⟩ member
    obtain ⟨further, found⟩ := List.mk_mem_zipIdx_iff_le_and_getElem?_sub.mp member
    rw [Bool.and_eq_true, Bool.not_eq_true', decide_eq_false_iff_not]
    rintro ⟨brace, alone⟩
    have paired := hasPartner_behind balanced (front ++ [t]) found
      (Bool.or_eq_true_iff.mp (braces x brace))
    rw [← divided, List.length_append, List.length_singleton, Nat.add_sub_cancel' further] at paired
    exact alone paired
  unfold loneBraces
  rw [List.zipIdx_append, Nat.zero_add, List.zipIdx_cons, List.filter_append, List.filter_cons,
    before, behind, List.map_append]
  congr 1
  simp only [Bool.and_eq_true, Bool.not_eq_true', decide_eq_false_iff_not]
  split <;> rfl

/-- Behind a run in which all blocks are closed a closing brace is alone. -/
theorem not_hasPartner_of_closes {brace : Token} (closes : brace.closesBlock = true)
    (closed : loneBraces Token.opensBlock front = []) (run : List Token) :
    ¬HasPartner (front ++ brace :: run) front.length := by
  rw [hasPartner_iff_of_closes (t := brace) (by simp) closes]
  rintro ⟨other, partners⟩
  obtain ⟨x, found, opens⟩ := (Option.any_eq_true _ _).mp partners.opens
  rw [List.getElem?_append_left partners.ordered] at found
  -- the block that it would close has its partner already
  have paired := hasPartner_of_loneBraces_eq_nil closed found opens
  obtain ⟨inner, within⟩ := (hasPartner_iff_of_opens found opens).mp paired
  have same := (within.append _).closing_unique partners
  exact Nat.ne_of_lt within.lt_length same

/-- In front of a balanced run an opening brace is alone. -/
theorem not_hasPartner_of_opens {brace : Token} (opens : brace.opensBlock = true)
    (front : List Token) {run : List Token} (balanced : Balanced run) :
    ¬HasPartner (front ++ brace :: run) front.length := by
  rw [hasPartner_iff_of_opens (t := brace) (by simp) opens]
  rintro ⟨other, partners⟩
  have behind := partners.ordered
  rw [List.append_cons] at partners
  have near := partners.lt_of_balanced balanced (by simp)
  rw [List.length_append, List.length_singleton] at near
  omega

/-- The braces that are left are those without a partner. -/
theorem Leaves.loneBraces_eq {closing opening : List Token}
    (leaves : Leaves tokens closing opening) :
    loneBraces Token.closesBlock tokens = closing ∧
      loneBraces Token.opensBlock tokens = opening := by
  have ofClosing : ∀ t : Token, t.closesBlock = true → t.isBrace = true :=
    fun t closes => Bool.or_eq_true_iff.mpr (Or.inr closes)
  have ofOpening : ∀ t : Token, t.opensBlock = true → t.isBrace = true :=
    fun t opens => Bool.or_eq_true_iff.mpr (Or.inl opens)
  induction leaves with
  | @balanced run balanced =>
      constructor <;> refine List.eq_nil_iff_forall_not_mem.mpr fun t member => ?_
      · obtain ⟨place, found, closes, alone⟩ := mem_loneBraces.mp member
        obtain ⟨other, partners⟩ := exists_partner_of_closes balanced found closes
        exact alone partners.hasPartner_closing
      · obtain ⟨place, found, opens, alone⟩ := mem_loneBraces.mp member
        obtain ⟨other, partners⟩ := exists_partner_of_opens balanced found opens
        exact alone partners.hasPartner_opening
  | @closing front closing run brace before closes balanced inductionHypothesis =>
      obtain ⟨closingBefore, openingBefore⟩ := inductionHypothesis
      have alone := not_hasPartner_of_closes closes openingBefore run
      constructor
      · rw [loneBraces_append balanced ofClosing fun place x found closes =>
          hasPartner_append_of_closes found closes _, closingBefore, if_pos ⟨closes, alone⟩]
      · rw [loneBraces_append balanced ofOpening, openingBefore, if_neg]
        · rfl
        · rintro ⟨opens, -⟩
          rw [Token.opensBlock_of_closesBlock closes] at opens
          cases opens
        · intro place x found opens
          have paired := hasPartner_of_loneBraces_eq_nil openingBefore found opens
          exact iff_of_true (paired.append _) paired
  | @opening front closing opening run brace before opens balanced inductionHypothesis =>
      obtain ⟨closingBefore, openingBefore⟩ := inductionHypothesis
      have alone := not_hasPartner_of_opens opens front balanced
      constructor
      · rw [loneBraces_append balanced ofClosing fun place x found closes =>
          hasPartner_append_of_closes found closes _, closingBefore, if_neg, List.append_nil]
        rintro ⟨closes, -⟩
        rw [Token.closesBlock_of_opensBlock opens] at closes
        cases closes
      · rw [loneBraces_append balanced ofOpening fun place x found deeper =>
          hasPartner_append_of_opens found deeper opens balanced, openingBefore,
          if_pos ⟨opens, alone⟩]

end Vivarium.Source
