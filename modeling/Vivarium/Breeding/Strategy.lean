import Vivarium.Number.Layout
import Vivarium.Text.Blank

/-!
# Breeding strategies

A strategy says how large a population is to be, which share of it may have
offspring, which share is carried over unchanged, and how often offspring are
crossed and mutated.  Its kind is a label only.

Main definitions:

* `Strategy`: the record, with the three that every nursery starts with;
* `Strategy.survivorCount`, `Strategy.eliteCount`: shares of the size, rounded;
* `Strategy.fault?`: what is wrong with a strategy.
-/

namespace Vivarium

namespace Strategy

/-- The flavour of a strategy. -/
inductive Kind where
  | genetic
  | elitist
  | exploratory
  deriving Repr, DecidableEq

/-- The name of a kind. -/
def Kind.name : Kind → String
  | .genetic => "genetic"
  | .elitist => "elitist"
  | .exploratory => "exploratory"

/-- All kinds. -/
def Kind.all : List Kind := [.genetic, .elitist, .exploratory]

end Strategy

/-- How a population is bred. -/
structure Strategy where
  name : String
  kind : Strategy.Kind
  populationSize : Nat
  mutationRate : Float
  crossoverRate : Float
  selectionPressure : Float
  elitismRate : Float
  deriving Repr, DecidableEq

namespace Strategy

/-- Half of twenty organisms breed, mostly by crossover. -/
def balanced : Strategy := ⟨"balanced", .genetic, 20, 0.1, 0.7, 0.5, 0.1⟩

/-- A large population with few parents and many mutations. -/
def aggressive : Strategy := ⟨"aggressive", .exploratory, 30, 0.3, 0.9, 0.3, 0.05⟩

/-- A small population that keeps much of what it has. -/
def conservative : Strategy := ⟨"conservative", .elitist, 10, 0.05, 0.5, 0.7, 0.2⟩

/-- The strategies that every nursery starts with. -/
def standard : List Strategy := [balanced, aggressive, conservative]

/-- A share of the population size, rounded to the nearest count. -/
def share (s : Strategy) (rate : Float) : Nat :=
  Number.roundToWord (rate * Number.ofNat s.populationSize)

/-- The number of organisms that may have offspring, at least one. -/
def survivorCount (s : Strategy) : Nat := max (s.share s.selectionPressure) 1

/-- The number of organisms carried over unchanged, at most the whole size. -/
def eliteCount (s : Strategy) : Nat := min (s.share s.elitismRate) s.populationSize

/-- What can be wrong with a strategy. -/
inductive Fault where
  | emptyName
  | noSize
  | rate (field : String) (value : Float)
  deriving Repr, DecidableEq

/-- The complaint about a faulty strategy. -/
def Fault.message : Fault → String
  | .emptyName => "name must not be empty"
  | .noSize => "population_size must be at least 1"
  | .rate field value => field ++ " " ++ Number.plain value ++ " is outside [0, 1]"

/-- The rates with their names, in the order in which they are checked. -/
def rates (s : Strategy) : List (String × Float) :=
  [("mutation_rate", s.mutationRate), ("crossover_rate", s.crossoverRate),
   ("selection_pressure", s.selectionPressure), ("elitism_rate", s.elitismRate)]

/-- The fault of a rate outside of the unit interval; a NaN is outside. -/
def rateFault? (rate : String × Float) : Option Fault :=
  if 0.0 ≤ rate.2 && rate.2 ≤ 1.0 then none else some (.rate rate.1 rate.2)

/-- The first fault of a strategy. -/
def fault? (s : Strategy) : Option Fault :=
  if (Text.trim s.name.toList).isEmpty then some .emptyName
  else if s.populationSize = 0 then some .noSize
  else s.rates.findSome? rateFault?

theorem one_le_survivorCount (s : Strategy) : 1 ≤ s.survivorCount := Nat.le_max_right _ _

theorem eliteCount_le (s : Strategy) : s.eliteCount ≤ s.populationSize := Nat.min_le_right _ _

end Strategy

end Vivarium
