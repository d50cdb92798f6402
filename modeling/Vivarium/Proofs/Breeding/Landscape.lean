import Mathlib.Data.List.Count
import Mathlib.Logic.Function.Iterate
import Vivarium.Breeding.Landscape
import Vivarium.Proofs.Organism.Bounds

/-!
# Landscapes

The constraints of a landscape are applied one after the other, and the first violated hard
one ends it.  What comes out is nevertheless a matter of the violated constraints alone and
not of their order: a hard one among them makes the score zero, and else as many factors are
multiplied as there are soft ones.  All factors are the same, so no law of multiplication is
needed for that.

A condition that cannot be read counts as satisfied, and an unknown objective adds nothing to
a score.  Both are out of the question for a landscape without a fault: its check reads the
conditions with the same reader, and goes through the names for which there are values.

Main definitions:

* `Landscape.violated`: the constraints that a state violates;
* `Condition.IsStatedBy`: a text states a condition, word by word;
* `Landscape.weightedMean`: the mean of objectives of given values;
* `Landscape.IsHeeded`: a landscape of which nothing is passed over.

Main statements:

* `Landscape.constrain_eq`, `Landscape.evaluate_orderless`: scores in closed form;
* `Condition.parse_eq_ok`: which texts are read, and as what;
* `Landscape.foldl_weigh`, `Landscape.objectiveScore_eq`: the loop over the objectives;
* `Landscape.isHeeded_of_fault?_eq_none`: what has passed the check is heeded.
-/

namespace Vivarium

/-! ## Scores -/

namespace Landscape

/-- The constraints that a state violates, in their order. -/
def violated (s : State) (constraints : List Constraint) : List Constraint :=
  constraints.filter fun c => !c.isSatisfied s

variable {s : State} {c : Constraint} {constraints others : List Constraint}

theorem violated_cons_of_satisfied (satisfied : c.isSatisfied s = true) :
    violated s (c :: constraints) = violated s constraints :=
  List.filter_cons_of_neg (by simp [satisfied])

theorem violated_cons (unsatisfied : c.isSatisfied s = false) :
    violated s (c :: constraints) = c :: violated s constraints :=
  List.filter_cons_of_pos (by simp [unsatisfied])

/-- A violated hard constraint makes the score zero, wherever it stands.  Else the score is
lowered once for each violated soft one, and clamped at the end. -/
theorem constrain_eq (s : State) (score : Float) (constraints : List Constraint) :
    constrain s score constraints =
      if ∃ c ∈ violated s constraints, c.kind = .hard then 0.0
      else clampUnit ((· * softPenalty)^[(violated s constraints).countP (·.kind = .soft)]
        score) := by
  induction constraints generalizing score with
  | nil => rfl
  | cons c rest inductionHypothesis =>
      unfold constrain
      cases satisfied : c.isSatisfied s with
      | true => rw [if_pos rfl, inductionHypothesis, violated_cons_of_satisfied satisfied]
      | false =>
          rw [if_neg Bool.false_ne_true, violated_cons satisfied]
          cases kind : c.kind with
          | hard => rw [if_pos ⟨c, List.mem_cons_self, kind⟩]
          | soft =>
              -- the factor is applied first, as the iterate does
              have counted : (c :: violated s rest).countP (·.kind = .soft) =
                  (violated s rest).countP (·.kind = .soft) + 1 :=
                List.countP_cons_of_pos (decide_eq_true kind)
              simp only [inductionHypothesis, counted, Function.iterate_succ_apply, List.mem_cons,
                or_and_right, exists_or, exists_eq_left, kind, reduceCtorEq, false_or]

/-- Constraints of which the same are violated, in whatever order, do the same to a score. -/
theorem constrain_congr (same : (violated s constraints).Perm (violated s others))
    (score : Float) : constrain s score constraints = constrain s score others := by
  have hard : (∃ c ∈ violated s constraints, c.kind = .hard) ↔
      ∃ c ∈ violated s others, c.kind = .hard :=
    exists_congr fun _ => and_congr_left' same.mem_iff
  rw [constrain_eq, constrain_eq, same.countP_eq]
  simp only [hard]

/-- The score of an organism: zero if it violates a hard constraint, and else what its
objectives come to, lowered by a tenth for each violated soft one.  Neither the order of the
constraints nor the satisfied ones matter, and the score is a number of the unit interval. -/
theorem evaluate_orderless (l : Landscape) (o : Organism) :
    (l.evaluate o =
      if ∃ c ∈ violated o.state l.constraints, c.kind = .hard then 0.0
      else clampUnit ((· * 0.9)^[(violated o.state l.constraints).countP (·.kind = .soft)]
        (l.objectiveScore o.state))) ∧
    (∀ constraints, constraints.Perm l.constraints →
      { l with constraints }.evaluate o = l.evaluate o) ∧
    (∀ constraints,
      (violated o.state constraints).Perm (violated o.state l.constraints) →
        { l with constraints }.evaluate o = l.evaluate o) ∧
    (l.evaluate o).isNaN = false ∧ 0.0 ≤ l.evaluate o ∧ l.evaluate o ≤ 1.0 := by
  have unordered : ∀ constraints,
      (violated o.state constraints).Perm (violated o.state l.constraints) →
        { l with constraints }.evaluate o = l.evaluate o :=
    fun _ same => constrain_congr same _
  have bounds : 0.0 ≤ l.evaluate o ∧ l.evaluate o ≤ 1.0 := by
    rw [evaluate, ← Organism.clampUnit_constrain]
    exact clampUnit_mem _
  exact ⟨constrain_eq _ _ _, fun _ permuted => unordered _ (permuted.filter _), unordered,
    (Number.isNaN_of_le bounds.2).1, bounds⟩

end Landscape

/-! ## Objectives and conditions -/

/-- The objectives that have a value are the known ones. -/
theorem exists_objectiveValue?_iff {name : String} {s : State} :
    (∃ value, objectiveValue? name s = some value) ↔ name ∈ objectiveNames := by
  rw [← Option.isSome_iff_exists, objectiveValue?, Option.isSome_map]
  unfold objectiveRaw?
  split
  case h_8 =>
    refine iff_of_false Bool.false_ne_true ?_
    simp_all [objectiveNames]
  all_goals exact iff_of_true rfl (by decide)

namespace Condition

variable {text objective sign numeral : String} {condition : Condition} {s : State}

/-- A text states a condition: it consists of the name of an objective, the sign of a
comparison and a numeral. -/
def IsStatedBy (condition : Condition) (text : String) : Prop :=
  ∃ sign numeral, (Text.words text.toList).map String.ofList =
      [condition.objective, sign, numeral] ∧
    condition.objective ∈ objectiveNames ∧
    Comparison.ofSign? sign = some condition.comparison ∧
    Number.read? numeral.toList = some condition.threshold

theorem ofParts_eq_ok : ofParts objective sign numeral = .ok condition ↔
    condition.objective = objective ∧ objective ∈ objectiveNames ∧
      Comparison.ofSign? sign = some condition.comparison ∧
      Number.read? numeral.toList = some condition.threshold := by
  obtain ⟨name, comparison, threshold⟩ := condition
  unfold ofParts
  cases known : objectiveNames.contains objective with
  | false =>
      have unknown : objective ∉ objectiveNames := by simpa using known
      simp [unknown]
  | true =>
      have listed : objective ∈ objectiveNames := by simpa using known
      cases Comparison.ofSign? sign with
      | none => simp
      | some read =>
          cases Number.read? numeral.toList with
          | none => simp
          | some number => simp [listed, eq_comm]

/-- The texts that can be read are those that state a condition. -/
theorem parse_eq_ok : parse text = .ok condition ↔ condition.IsStatedBy text := by
  unfold parse IsStatedBy
  split
  · rename_i objective sign numeral words
    rw [words, ofParts_eq_ok]
    constructor
    · rintro ⟨rfl, known, signed, read⟩
      exact ⟨sign, numeral, rfl, known, signed, read⟩
    · rintro ⟨_, _, same, known, signed, read⟩
      cases same
      exact ⟨rfl, known, signed, read⟩
  · rename_i otherwise
    refine iff_of_false (fun impossible => nomatch impossible) ?_
    rintro ⟨sign, numeral, words, -⟩
    exact otherwise _ _ _ words

/-- A condition on a known objective compares its value. -/
theorem exists_holds_eq (known : condition.objective ∈ objectiveNames) (s : State) :
    ∃ value, objectiveValue? condition.objective s = some value ∧
      condition.holds s = condition.comparison.holds value condition.threshold := by
  obtain ⟨value, valued⟩ := exists_objectiveValue?_iff.mpr known
  exact ⟨value, valued, by rw [holds, valued]⟩

end Condition

/-! ## Checks -/

namespace Landscape

variable {l : Landscape}

theorem objectiveFault?_eq_none {o : Objective} : objectiveFault? o = none ↔
    o.name ∈ objectiveNames ∧ Number.isFinite o.weight = true ∧ 0.0 ≤ o.weight := by
  unfold objectiveFault?
  by_cases known : o.name ∈ objectiveNames
  · simp [known]
  · simp [known]

theorem constraintFault?_eq_none {c : Constraint} : constraintFault? c = none ↔
    ∃ condition, Condition.parse c.condition = .ok condition := by
  unfold constraintFault?
  split
  · rename_i condition read
    exact iff_of_true rfl ⟨condition, read⟩
  · rename_i fault refused
    simp [refused]

/-- What the check of a landscape makes sure of. -/
theorem fault?_eq_none : l.fault? = none ↔
    l.objectives ≠ [] ∧ (∀ o ∈ l.objectives, objectiveFault? o = none) ∧
      ¬Number.sum (l.objectives.map (·.weight)) ≤ 0.0 ∧
      ∀ c ∈ l.constraints, constraintFault? c = none := by
  unfold fault?
  by_cases empty : l.objectives = []
  · simp [empty]
  · rw [if_neg (mt List.isEmpty_iff.mp empty)]
    cases found : l.objectives.findSome? objectiveFault? with
    | some fault =>
        obtain ⟨o, member, faulty⟩ := List.exists_of_findSome?_eq_some found
        refine iff_of_false (fun impossible => nomatch impossible) ?_
        rintro ⟨-, faultless, -⟩
        cases (faultless o member).symm.trans faulty
    | none =>
        rw [List.findSome?_eq_none_iff] at found
        by_cases weightless : Number.sum (l.objectives.map (·.weight)) ≤ 0.0
        · simp [weightless]
        · simp only [weightless, if_false, List.findSome?_eq_none_iff, ne_eq, empty,
            not_false_eq_true, true_and, and_iff_right found]

/-! ## Means -/

/-- What an objective of some value puts into a score. -/
def share (o : Objective) (value : Float) : Float :=
  (if o.maximize then value else 1.0 - value) * o.weight

/-- The weighted mean of objectives of some values: all shares by all weights, each summed up
from left to right. -/
def weightedMean (objectives : List Objective) (values : List Float) : Float :=
  let total := (objectives.map (·.weight)).foldl (· + ·) 0.0
  if 0.0 < total then (List.zipWith share objectives values).foldl (· + ·) 0.0 / total else 0.0

/-- The objectives have these values, one each. -/
def Valued (s : State) (objectives : List Objective) (values : List Float) : Prop :=
  List.Forall₂ (fun o value => objectiveValue? o.name s = some value) objectives values

variable {s : State} {objectives : List Objective} {values : List Float}

/-- An objective that has a value goes into both sums. -/
theorem weigh_eq {o : Objective} {value : Float} (valued : objectiveValue? o.name s = some value)
    (sums : Float × Float) : weigh s sums o = (sums.1 + share o value, sums.2 + o.weight) := by
  rw [weigh, valued]
  rfl

/-- The loop over objectives that all have values leaves none of them out. -/
theorem foldl_weigh (valued : Valued s objectives values) (sums : Float × Float) :
    objectives.foldl (weigh s) sums =
      ((List.zipWith share objectives values).foldl (· + ·) sums.1,
        (objectives.map (·.weight)).foldl (· + ·) sums.2) := by
  unfold Valued at valued
  induction valued generalizing sums with
  | nil => rfl
  | cons here _ inductionHypothesis =>
      rw [List.foldl_cons, weigh_eq here, inductionHypothesis]
      rfl

theorem objectiveScore_eq (valued : Valued s l.objectives values) :
    l.objectiveScore s = weightedMean l.objectives values := by
  rw [objectiveScore, foldl_weigh valued]
  rfl

/-- Known objectives have values. -/
theorem exists_valued (known : ∀ o ∈ objectives, o.name ∈ objectiveNames) (s : State) :
    ∃ values, Valued s objectives values := by
  induction objectives with
  | nil => exact ⟨[], List.Forall₂.nil⟩
  | cons o others inductionHypothesis =>
      obtain ⟨knownHere, knownOthers⟩ := List.forall_mem_cons.mp known
      obtain ⟨value, valued⟩ := exists_objectiveValue?_iff.mpr knownHere
      obtain ⟨values, valuedOthers⟩ := inductionHypothesis knownOthers
      exact ⟨value :: values, valuedOthers.cons valued⟩

/-! ## Heeded landscapes -/

/-- Nothing that a landscape says is passed over.  Each constraint states a condition, and is
satisfied if the value of the objective that it names compares as stated.  Each objective has
a value, which goes into the score with the weight of the objective; and the score of an
organism is the weighted mean of all of them, as far as the violated constraints leave it. -/
structure IsHeeded (l : Landscape) : Prop where
  constraints : ∀ c ∈ l.constraints, ∃ condition : Condition,
    condition.IsStatedBy c.condition ∧ Condition.parse c.condition = .ok condition ∧
      ∀ s, ∃ value, objectiveValue? condition.objective s = some value ∧
        c.isSatisfied s = condition.comparison.holds value condition.threshold
  objectives : ∀ o ∈ l.objectives, ∀ s, ∃ value, objectiveValue? o.name s = some value ∧
    ∀ sums, weigh s sums o =
      (sums.1 + (if o.maximize then value else 1.0 - value) * o.weight, sums.2 + o.weight)
  score : ∀ o : Organism, ∃ values, Valued o.state l.objectives values ∧
    l.objectiveScore o.state = weightedMean l.objectives values ∧
    l.evaluate o =
      if ∃ c ∈ violated o.state l.constraints, c.kind = .hard then 0.0
      else clampUnit
        ((· * softPenalty)^[(violated o.state l.constraints).countP (·.kind = .soft)]
          (weightedMean l.objectives values))

/-- A landscape that has passed its check is heeded. -/
theorem isHeeded_of_fault?_eq_none (faultless : l.fault? = none) : l.IsHeeded := by
  obtain ⟨-, objectives, -, constraints⟩ := fault?_eq_none.mp faultless
  have known : ∀ o ∈ l.objectives, o.name ∈ objectiveNames :=
    fun o member => (objectiveFault?_eq_none.mp (objectives o member)).1
  constructor
  · intro c member
    obtain ⟨condition, read⟩ := constraintFault?_eq_none.mp (constraints c member)
    have stated : condition.IsStatedBy c.condition := Condition.parse_eq_ok.mp read
    have known : condition.objective ∈ objectiveNames := by
      obtain ⟨_, _, -, known, -⟩ := stated
      exact known
    refine ⟨condition, stated, read, ?_⟩
    intro s
    obtain ⟨value, valued, compared⟩ := Condition.exists_holds_eq known s
    exact ⟨value, valued, by rw [Constraint.isSatisfied, read, ← compared]⟩
  · intro o member s
    obtain ⟨value, valued⟩ := exists_objectiveValue?_iff.mpr (known o member)
    exact ⟨value, valued, weigh_eq valued⟩
  · intro o
    obtain ⟨values, valued⟩ := exists_valued known o.state
    have mean := objectiveScore_eq valued
    refine ⟨values, valued, mean, ?_⟩
    rw [evaluate, constrain_eq, mean]

end Landscape

end Vivarium
