import Vivarium.Organism.Basic

/-!
# Populations

A population is a named list of organisms bred together.  Beside the organisms
it keeps figures about them, taken whenever they change.  No two organisms of a
population have one id: an organism that brings a taken id gets a fresh one,
which is drawn from a supply.

Main definitions:

* `IdSupply`: the fresh ids still to be given out;
* `speciesCount`, `Metrics.measure`: the figures about a list of organisms;
* `Population`: the record, with `enroll` and `take` for one organism.
-/

namespace Vivarium

/-- A sequence of fresh ids, of which some have been given out. -/
structure IdSupply where
  ids : Nat → OrganismId
  issued : Nat

namespace IdSupply

/-- The next fresh id and the supply without it. -/
def next (supply : IdSupply) : OrganismId × IdSupply :=
  (supply.ids supply.issued, { supply with issued := supply.issued + 1 })

@[simp]
theorem next_issued (supply : IdSupply) : supply.next.2.issued = supply.issued + 1 := rfl

end IdSupply

/-- The number of different members of a list. -/
def distinctCount [DecidableEq α] (items : List α) : Nat := items.eraseDups.length

/-- The number of the fitness bucket of an organism, between zero and the last. -/
def bucket (width : Float) (last : Int) (o : Organism) : Int :=
  max 0 (min (Number.floorToInt64 (o.state.fitness / width)) last)

/-- The number of buckets of some width that hold the fitness of an organism.  A
width that is not positive counts as a tenth.  A fitness of one falls into the
last bucket below it. -/
def speciesCount (organisms : List Organism) (bucketWidth : Float) : Nat :=
  let width := if 0.0 < bucketWidth then bucketWidth else 0.1
  let last := max 0 (Number.ceilToInt64 (1.0 / width) - 1)
  distinctCount (organisms.map (bucket width last))

/-- Figures about the organisms of a population. -/
structure Metrics where
  size : Nat
  meanFitness : Float
  bestFitness : Float
  diversity : Float
  speciesCount : Nat
  maxGeneration : UInt64
  deriving Repr, DecidableEq

namespace Metrics

/-- The figures of a population without organisms. -/
def zero : Metrics := ⟨0, 0.0, 0.0, 0.0, 0, 0⟩

/-- The square of a number's distance to another. -/
def squaredDistance (center x : Float) : Float := (x - center) * (x - center)

/-- The figures of a list of organisms.  Diversity is four times the variance of
fitness, in the unit interval. -/
def measure (organisms : List Organism) (bucketWidth : Float) : Metrics :=
  if organisms.isEmpty then zero
  else
    let count := Number.ofNat organisms.length
    let fitness := organisms.map (·.state.fitness)
    let mean := Number.sum fitness / count
    let variance := Number.sum (fitness.map (squaredDistance mean)) / count
    { size := organisms.length
      meanFitness := mean
      bestFitness := fitness.foldl Number.maxIgnoringNaN 0.0
      diversity := clampUnit (4.0 * variance)
      speciesCount := Vivarium.speciesCount organisms bucketWidth
      maxGeneration := organisms.foldl (fun g o => max g o.state.generation) 0 }

end Metrics

/-- A named list of organisms that are bred together. -/
structure Population where
  name : String
  strategy : String
  organisms : List Organism
  createdAt : Instant
  cycles : Nat
  metrics : Metrics
  deriving Repr, DecidableEq

namespace Population

/-- A population without organisms. -/
def founded (name strategy : String) (createdAt : Instant) : Population :=
  ⟨name, strategy, [], createdAt, 0, Metrics.zero⟩

/-- The number of organisms. -/
def size (p : Population) : Nat := p.organisms.length

/-- The ids of the organisms, in order. -/
def ids (p : Population) : List OrganismId := p.organisms.map (·.id)

/-- The organism with an id. -/
def find? (p : Population) (id : OrganismId) : Option Organism :=
  p.organisms.find? fun o => o.id = id

/-- The population holds an organism with the id. -/
def contains (p : Population) (id : OrganismId) : Bool := p.ids.contains id

/-- The population with one more organism at the end, normalized, and with the id
under which it is held: its own, or a fresh one if that is taken. -/
def enroll (p : Population) (supply : IdSupply) (o : Organism) :
    OrganismId × Population × IdSupply :=
  let (id, supply) := if p.contains o.id then supply.next else (o.id, supply)
  (id, { p with organisms := p.organisms ++ [{ o with id := id }.normalize] }, supply)

/-- The organism with an id, and the population without it. -/
def take? (p : Population) (id : OrganismId) : Option (Organism × Population) :=
  (p.find? id).map fun o =>
    (o, { p with organisms := p.organisms.eraseP fun o => o.id = id })

/-- The population with its figures taken anew. -/
def remeasure (p : Population) (bucketWidth : Float) : Population :=
  { p with metrics := Metrics.measure p.organisms bucketWidth }

end Population

end Vivarium
