import Vivarium.Breeding.Nursery
import Vivarium.Habitat.Basic

/-!
# Ecosystems

An ecosystem joins a habitat and a nursery.  Organisms are harvested from the
habitat into a population, and released from a population back into the habitat.
A transfer is checked as a whole before anything moves, and it moves each
organism once however often its id is listed.

Main definitions:

* `Ecosystem`: habitat, nursery and the supply of fresh ids;
* `founded`: the ecosystem of a configuration;
* `harvest`, `release`, `releaseAll`: the transfers.
-/

namespace Vivarium

/-- A habitat and a nursery that draw their fresh ids from one supply. -/
structure Ecosystem where
  habitat : Habitat
  nursery : Nursery
  supply : IdSupply

/-- Why an operation on an ecosystem fails. -/
inductive EcosystemFault where
  | habitat (fault : HabitatFault)
  | nursery (fault : NurseryFault)
  deriving Repr, DecidableEq

/-- The complaint about a failed operation, in which ids are shown by the given
names. -/
def EcosystemFault.message (nameOf : OrganismId → String) : EcosystemFault → String
  | .habitat fault => fault.message nameOf
  | .nursery fault => "Evolution error: " ++ fault.message nameOf

namespace Ecosystem

/-- An ecosystem without organisms.  A part whose seed is not configured takes the
given one. -/
def founded (c : Config) (habitatSeed nurserySeed : Nat) (supply : IdSupply) : Ecosystem :=
  let stream (seed : Nat) := Rng.ofSeed seed.toUInt64
  { habitat := Habitat.founded c.habitat (stream (c.habitat.seed.getD habitatSeed))
    nursery := Nursery.founded c.nursery (stream (c.nursery.seed.getD nurserySeed))
    supply := supply }

/-- A failure of the nursery as one of the ecosystem. -/
def ofNursery (result : Except NurseryFault α) : Except EcosystemFault α :=
  result.mapError .nursery

/-- The organisms of some ids taken out of a habitat, in the order in which their
ids are listed first. -/
def takeAll (h : Habitat) : List OrganismId → List Organism × Habitat
  | [] => ([], h)
  | id :: rest =>
      match h.take? id with
      | none => takeAll h rest
      | some (o, h) =>
          let (organisms, h) := takeAll h rest
          (o :: organisms, h)

/-- The ecosystem after organisms were moved from the habitat into a population,
and their ids there.  A population that does not exist is founded under the
strategy and filled with clones of the organisms moved. -/
def harvest (e : Ecosystem) (ids : List OrganismId) (population strategyName : String)
    (now : Instant) : Except EcosystemFault (List OrganismId × Ecosystem) := do
  let strategy ← ofNursery (e.nursery.strategy strategyName)
  match ids.find? fun id => !e.habitat.contains id with
  | some missing => throw (.habitat (.notFound missing))
  | none =>
      let existing := e.nursery.populations.find? population
      let target := existing.getD (Population.founded population strategy.name now)
      let (seeds, habitat) := takeAll e.habitat ids
      let (moved, target, supply) := Nursery.enrollAll target e.supply seeds
      let size := if existing.isSome then 0 else strategy.populationSize
      let (target, nursery, supply) := e.nursery.fill target seeds size now supply
      return (moved, ⟨habitat, nursery.put population target, supply⟩)

/-- Organisms of a population admitted to a habitat, in the order in which their
ids are listed first, and what is left of the population. -/
def releaseEach (h : Habitat) (p : Population) (supply : IdSupply) :
    List OrganismId → List Organism × Habitat × Population × IdSupply
  | [] => ([], h, p, supply)
  | id :: rest =>
      match p.take? id with
      | none => releaseEach h p supply rest
      | some (o, p) =>
          let (registered, h, supply) := h.enroll supply o
          let (organisms, h, p, supply) := releaseEach h p supply rest
          (registered :: organisms, h, p, supply)

/-- The ecosystem after organisms were moved from a population into the habitat,
and the organisms as they are registered there. -/
def release (e : Ecosystem) (population : String) (ids : List OrganismId) :
    Except EcosystemFault (List Organism × Ecosystem) := do
  let source ← ofNursery (e.nursery.population population)
  match ids.find? fun id => !source.contains id with
  | some missing => throw (.nursery (.organismNotInPopulation missing population))
  | none =>
      let (organisms, habitat, left, supply) := releaseEach e.habitat source e.supply ids
      let left := left.remeasure e.nursery.config.speciesBucketWidth
      return (organisms, ⟨habitat, e.nursery.put population left, supply⟩)

/-- The ecosystem after all organisms of a population were released and the
population was removed. -/
def releaseAll (e : Ecosystem) (population : String) :
    Except EcosystemFault (List Organism × Ecosystem) := do
  let source ← ofNursery (e.nursery.population population)
  let (organisms, e) ← e.release population source.ids
  let (_, nursery) ← ofNursery (e.nursery.removePopulation population)
  return (organisms, { e with nursery := nursery })

end Ecosystem

end Vivarium
