import Vivarium.Number.Layout
import Vivarium.Number.Numeral
import Vivarium.Organism.Basic
import Vivarium.Text.Blank

/-!
# Fitness landscapes

A landscape scores organisms.  Its objectives are values derived from the state,
each with a weight; the score is their weighted mean.  Constraints compare an
objective with a number: a violated hard constraint makes the score zero, and
each violated soft one lowers it by a tenth.

Main definitions:

* `objectiveValue?`: the value of an objective of some name;
* `Comparison`, `Condition`: the form of a condition;
* `Condition.parse`: the condition that a text states, or what is wrong with it;
* `Landscape`, `Landscape.evaluate`, `Landscape.fault?`: the score, and what is
  wrong with a landscape.
-/

namespace Vivarium

/-- The names of all objectives. -/
def objectiveNames : List String :=
  ["consciousness", "quantum_coherence", "fitness", "energy", "performance", "adaptability",
   "resilience"]

/-- The value of an objective before it is clamped. -/
def objectiveRaw? (name : String) (s : State) : Option Float :=
  match name with
  | "consciousness" => some s.consciousness
  | "quantum_coherence" => some s.quantumCoherence
  | "fitness" => some s.fitness
  | "energy" => some s.energy
  | "performance" => some (s.fitness * s.consciousness)
  | "adaptability" =>
      some (Number.ofNat s.mutations.toNat / Number.ofNat (max s.generation 1).toNat)
  | "resilience" => some (1.0 - (0.5 - s.quantumCoherence).abs)
  | _ => none

/-- The value of an objective, in the unit interval. -/
def objectiveValue? (name : String) (s : State) : Option Float :=
  (objectiveRaw? name s).map clampUnit

/-! ## Conditions -/

/-- The comparisons of a condition. -/
inductive Comparison where
  | less
  | lessEqual
  | greater
  | greaterEqual
  | equal
  | notEqual
  deriving Repr, DecidableEq

namespace Comparison

/-- The comparison of a sign. -/
def ofSign? (sign : String) : Option Comparison :=
  match sign with
  | "<" => some .less
  | "<=" => some .lessEqual
  | ">" => some .greater
  | ">=" => some .greaterEqual
  | "==" => some .equal
  | "!=" => some .notEqual
  | _ => none

/-- Two numbers stand in the comparison.  They count as equal when they are less
than the smallest difference above one apart. -/
def holds (c : Comparison) (left right : Float) : Bool :=
  match c with
  | .less => left < right
  | .lessEqual => left ≤ right
  | .greater => right < left
  | .greaterEqual => right ≤ left
  | .equal => (left - right).abs < Number.epsilon
  | .notEqual => Number.epsilon ≤ (left - right).abs

end Comparison

/-- A comparison of an objective with a number. -/
structure Condition where
  objective : String
  comparison : Comparison
  threshold : Float
  deriving Repr, DecidableEq

namespace Condition

/-- What can be wrong with the text of a condition. -/
inductive Fault where
  | shape (text : String)
  | objective (name : String)
  | comparison (sign : String)
  | threshold (text : String)
  deriving Repr, DecidableEq

/-- The complaint about a name that no objective has. -/
def unknownObjective (name : String) : String := "unknown objective '" ++ name ++ "'"

/-- The complaint about a faulty condition. -/
def Fault.message : Fault → String
  | .shape text => "condition '" ++ text ++ "' is not of the form '<objective> <op> <number>'"
  | .objective name => unknownObjective name
  | .comparison sign => "unknown comparison '" ++ sign ++ "'"
  | .threshold text => "'" ++ text ++ "' is not a number"

/-- The condition of an objective's name, a sign and a numeral.  The first part
that is wrong is the fault. -/
def ofParts (objective sign numeral : String) : Except Fault Condition :=
  if !objectiveNames.contains objective then .error (.objective objective)
  else
    match Comparison.ofSign? sign with
    | none => .error (.comparison sign)
    | some comparison =>
        match Number.read? numeral.toList with
        | none => .error (.threshold numeral)
        | some threshold => .ok ⟨objective, comparison, threshold⟩

/-- The condition that a text of three words states. -/
def parse (text : String) : Except Fault Condition :=
  match (Text.words text.toList).map String.ofList with
  | [objective, sign, numeral] => ofParts objective sign numeral
  | _ => .error (.shape text)

/-- The state meets the condition.  A condition on an unknown objective is met. -/
def holds (c : Condition) (s : State) : Bool :=
  match objectiveValue? c.objective s with
  | some value => c.comparison.holds value c.threshold
  | none => true

end Condition

/-! ## Landscapes -/

/-- A value to be raised, or lowered, with its weight. -/
structure Objective where
  name : String
  weight : Float
  maximize : Bool
  deriving Repr, DecidableEq

namespace Constraint

/-- A violated hard constraint excludes an organism, a violated soft one only
lowers its score. -/
inductive Kind where
  | hard
  | soft
  deriving Repr, DecidableEq

/-- The name of a kind. -/
def Kind.name : Kind → String
  | .hard => "hard"
  | .soft => "soft"

/-- All kinds. -/
def Kind.all : List Kind := [.hard, .soft]

end Constraint

/-- A named condition. -/
structure Constraint where
  name : String
  kind : Constraint.Kind
  condition : String
  deriving Repr, DecidableEq

/-- The state satisfies the constraint.  A condition that cannot be read is
satisfied; a landscape with one is refused beforehand. -/
def Constraint.isSatisfied (c : Constraint) (s : State) : Bool :=
  match Condition.parse c.condition with
  | .ok condition => condition.holds s
  | .error _ => true

/-- Weighted objectives with constraints. -/
structure Landscape where
  name : String
  dimensions : List String
  objectives : List Objective
  constraints : List Constraint
  deriving Repr, DecidableEq

namespace Landscape

/-- The landscape that every nursery starts with. -/
def standard : Landscape :=
  let objectives : List Objective :=
    [⟨"consciousness", 0.25, true⟩, ⟨"fitness", 0.35, true⟩, ⟨"performance", 0.2, true⟩,
     ⟨"resilience", 0.2, true⟩]
  { name := "default"
    dimensions := objectives.map (·.name)
    objectives := objectives
    constraints := [⟨"alive", .hard, "energy > 0"⟩] }

/-- A weighted sum and the weights in it, with one more objective.  An unknown
objective adds nothing. -/
def weigh (s : State) (sums : Float × Float) (o : Objective) : Float × Float :=
  match objectiveValue? o.name s with
  | none => sums
  | some value =>
      let gain := if o.maximize then value else 1.0 - value
      (sums.1 + gain * o.weight, sums.2 + o.weight)

/-- The weighted mean of the objectives; zero without weights. -/
def objectiveScore (l : Landscape) (s : State) : Float :=
  let (weighted, total) := l.objectives.foldl (weigh s) (0.0, 0.0)
  if 0.0 < total then weighted / total else 0.0

/-- The factor by which a violated soft constraint lowers the score. -/
def softPenalty : Float := 0.9

/-- A score after some constraints: clamped at the end, zero at the first violated
hard constraint. -/
def constrain (s : State) (score : Float) : List Constraint → Float
  | [] => clampUnit score
  | c :: rest =>
      if c.isSatisfied s then constrain s score rest
      else
        match c.kind with
        | .hard => 0.0
        | .soft => constrain s (score * softPenalty) rest

/-- The score of an organism. -/
def evaluate (l : Landscape) (o : Organism) : Float :=
  constrain o.state (l.objectiveScore o.state) l.constraints

/-- What can be wrong with a landscape. -/
inductive Fault where
  | noObjective
  | unknownObjective (name : String)
  | badWeight (objective : String) (weight : Float)
  | totalWeight
  | condition (fault : Condition.Fault)
  deriving Repr, DecidableEq

/-- The complaint about a faulty landscape. -/
def Fault.message : Fault → String
  | .noObjective => "at least one objective is required"
  | .unknownObjective name => Condition.unknownObjective name
  | .badWeight objective weight =>
      "objective '" ++ objective ++ "' has invalid weight " ++ Number.plain weight
  | .totalWeight => "total objective weight must be positive"
  | .condition fault => fault.message

/-- The fault of an objective. -/
def objectiveFault? (o : Objective) : Option Fault :=
  if !objectiveNames.contains o.name then some (.unknownObjective o.name)
  else if Number.isFinite o.weight && 0.0 ≤ o.weight then none
  else some (.badWeight o.name o.weight)

/-- The fault of a constraint. -/
def constraintFault? (c : Constraint) : Option Fault :=
  match Condition.parse c.condition with
  | .ok _ => none
  | .error fault => some (.condition fault)

/-- The first fault of a landscape. -/
def fault? (l : Landscape) : Option Fault :=
  if l.objectives.isEmpty then some .noObjective
  else
    match l.objectives.findSome? objectiveFault? with
    | some fault => some fault
    | none =>
        if Number.sum (l.objectives.map (·.weight)) ≤ 0.0 then some .totalWeight
        else l.constraints.findSome? constraintFault?

end Landscape

end Vivarium
