import Vivarium.Breeding.Clone
import Vivarium.Breeding.Landscape
import Vivarium.Breeding.Strategy
import Vivarium.Config
import Vivarium.Organism.Crossover

/-!
# Selection

One cycle of selection scores the organisms of a population, ranks them by
score, keeps the best as they are, and refills the population with offspring of
the better ones.  Parents are found by tournaments.  As with clones, offspring
are drawn first and named afterwards.

What a cycle does to the figures of a population can be remarkable: more
species, a better best organism, or too many bad ones.  Each is an event.

Main definitions:

* `rank`: the organisms with their scores, best first;
* `tournament`: the rank of a parent;
* `Offspring`, `drawOffspring`: one child;
* `emergence`: the remarkable events;
* `select`: the whole cycle.
-/

namespace Vivarium

/-! ## Ranking and tournaments -/

/-- Order by descending fitness. -/
def Organism.fitter (a b : Organism) : Bool := Number.totalLe b.state.fitness a.state.fitness

/-- The organism with its score as fitness. -/
def Organism.scored (o : Organism) (l : Landscape) : Organism :=
  { o with state := { o.state with fitness := l.evaluate o } }

/-- The organisms with their scores, best first; of equal ones the earlier stays
in front. -/
def rank (l : Landscape) (organisms : List Organism) : List Organism :=
  (organisms.map (·.scored l)).mergeSort Organism.fitter

/-- The least of some uniformly drawn ranks below a number, and of the given one. -/
def contest (count best : Nat) : Nat → Draw Nat
  | 0 => return best
  | rounds + 1 => do
      let drawn ← Draw.below64 count
      contest count (min best drawn) rounds

/-- The rank of the winner of a tournament among the first `count` organisms.  The
best of the contestants is the one of least rank; there is at least one. -/
def tournament (count size : Nat) : Draw Nat := do
  let first ← Draw.below64 count
  contest count first (size - 1)

/-! ## Offspring -/

/-- A child that has no id of its own yet, with what made it. -/
structure Offspring where
  organism : Organism
  parents : Option (OrganismId × OrganismId)
  outcome : Option Mutation.Outcome
  deriving Repr, DecidableEq

/-- The child of two organisms born now: a crossover with the chance of the
strategy, and a copy of the first one otherwise. -/
def drawChild (first second : Organism) (strategy : Strategy) (eliteBias : Float)
    (now : Instant) : Draw (Organism × Bool) := do
  let chance ← Draw.unit
  if chance < strategy.crossoverRate then
    let child ← crossover first second eliteBias
    return ({ child with createdAt := now, lastEvolutionAt := none }, true)
  else return (first.successor now, false)

/-- The child, mutated with the chance of the strategy. -/
def maybeMutate (child : Organism) (strategy : Strategy) :
    Draw (Organism × Option Mutation.Outcome) := do
  let chance ← Draw.unit
  if chance < strategy.mutationRate then
    let kind ← Mutation.Kind.draw Mutation.Kind.breeding
    let (mutated, outcome) ← Mutation.apply child kind
    return (mutated, some outcome)
  else return (child, none)

/-- A child of two parents from the pool, whose best member is given too. -/
def drawOffspring (best : Organism) (pool : List Organism) (config : NurseryConfig)
    (strategy : Strategy) (now : Instant) : Draw Offspring := do
  let first ← tournament pool.length config.tournamentSize
  let second ← tournament pool.length config.tournamentSize
  let mother := pool.getD first best
  let father := pool.getD second best
  let (child, crossed) ← drawChild mother father strategy config.geneEliteBias now
  let (child, outcome) ← maybeMutate child strategy
  return ⟨child, if crossed then some (mother.id, father.id) else none, outcome⟩

/-- A number of children. -/
def drawLitter (best : Organism) (pool : List Organism) (config : NurseryConfig)
    (strategy : Strategy) (now : Instant) : Nat → Draw (List Offspring)
  | 0 => return []
  | count + 1 => do
      let child ← drawOffspring best pool config strategy now
      let rest ← drawLitter best pool config strategy now count
      return child :: rest

/-- The events of a child under its id: its crossover and its mutation. -/
def Offspring.events (c : Offspring) (id : OrganismId) (population : String) (now : Instant) :
    List Event :=
  let crossed := c.parents.map fun (mother, father) =>
    (⟨.crossover, now, some id, population, .crossed mother father, 0.0⟩ : Event)
  let mutated := c.outcome.map fun outcome =>
    (⟨.mutation, now, some id, population, .mutated outcome.kind, outcome.magnitude⟩ : Event)
  crossed.toList ++ mutated.toList

/-- Children under fresh ids, and their events. -/
def nameOffspring (population : String) (now : Instant) (supply : IdSupply) :
    List Offspring → List Organism × List Event × IdSupply
  | [] => ([], [], supply)
  | child :: rest =>
      let (id, supply) := supply.next
      let (organisms, events, supply) := nameOffspring population now supply rest
      ({ child.organism with id := id } :: organisms,
        child.events id population now ++ events, supply)

/-! ## Emergence -/

/-- More species than before. -/
def speciation (population : String) (now : Instant) (before after : Metrics) : List Event :=
  if before.speciesCount < after.speciesCount then
    [⟨.speciation, now, none, population, .speciesGrew before.speciesCount after.speciesCount,
      Number.ofNat (after.speciesCount - before.speciesCount)⟩]
  else []

/-- A best organism better than before by more than a bound. -/
def breakthrough (config : NurseryConfig) (population : String) (now : Instant)
    (before after : Metrics) : List Event :=
  if before.bestFitness + config.breakthroughDelta < after.bestFitness then
    [⟨.breakthrough, now, none, population, .fitnessRose before.bestFitness after.bestFitness,
      after.bestFitness - before.bestFitness⟩]
  else []

/-- Too large a share of organisms below the fitness floor. -/
def extinction (config : NurseryConfig) (population : String) (now : Instant)
    (organisms : List Organism) : List Event :=
  let below := organisms.countP fun o => o.state.fitness < config.extinctionFloor
  let share := Number.ofNat below / Number.ofNat (max organisms.length 1)
  if config.extinctionFraction < share then
    [⟨.extinction, now, none, population, .belowFloor below organisms.length, share⟩]
  else []

/-- The remarkable events of a cycle, in the order in which they are recorded. -/
def emergence (config : NurseryConfig) (population : String) (now : Instant)
    (before after : Metrics) (organisms : List Organism) : List Event :=
  speciation population now before after ++ breakthrough config population now before after ++
    extinction config population now organisms

/-! ## The cycle -/

/-- What a cycle of selection did to a population. -/
structure SelectionReport where
  population : String
  strategy : String
  sizeBefore : Nat
  sizeAfter : Nat
  survivors : Nat
  elites : Nat
  offspring : Nat
  crossovers : Nat
  mutations : Nat
  metrics : Metrics
  deriving Repr, DecidableEq

/-- What comes out of a cycle of selection. -/
structure Selected where
  population : Population
  report : SelectionReport
  events : List Event
  rng : Rng
  supply : IdSupply

/-- The report of a cycle that found no organism. -/
def idleReport (p : Population) (strategy : Strategy) : SelectionReport :=
  ⟨p.name, strategy.name, p.size, p.size, 0, 0, 0, 0, 0, p.metrics⟩

/-- A cycle of selection on a population.  A population without organisms stays as
it is. -/
def select (config : NurseryConfig) (strategy : Strategy) (landscape : Landscape)
    (now : Instant) (p : Population) (rng : Rng) (supply : IdSupply) : Selected :=
  let ranked := rank landscape p.organisms
  match ranked with
  | [] => ⟨p, idleReport p strategy, [], rng, supply⟩
  | best :: _ =>
      let survivors := min strategy.survivorCount ranked.length
      let elites := min strategy.eliteCount ranked.length
      let (litter, rng) :=
        (drawLitter best (ranked.take survivors) config strategy now
          (strategy.populationSize - elites)).run rng
      let (children, births, supply) := nameOffspring p.name now supply litter
      let organisms := ranked.take elites ++ children
      let metrics := Metrics.measure organisms config.speciesBucketWidth
      let closing : Event :=
        ⟨.selection, now, none, p.name, .selected survivors elites litter.length,
          metrics.bestFitness⟩
      { population :=
          { p with organisms := organisms, cycles := p.cycles + 1, metrics := metrics }
        report :=
          { population := p.name
            strategy := strategy.name
            sizeBefore := p.size
            sizeAfter := organisms.length
            survivors := survivors
            elites := elites
            offspring := litter.length
            crossovers := litter.countP fun child => child.parents.isSome
            mutations := litter.countP fun child => child.outcome.isSome
            metrics := metrics }
        events := births ++ emergence config p.name now p.metrics metrics organisms ++ [closing]
        rng := rng
        supply := supply }

end Vivarium
