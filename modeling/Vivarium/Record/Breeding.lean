import Vivarium.Breeding.Event
import Vivarium.Breeding.Landscape
import Vivarium.Breeding.Nursery
import Vivarium.Breeding.Selection
import Vivarium.Breeding.Strategy
import Vivarium.Habitat.Basic
import Vivarium.Record.Organism

/-!
# Records of breeding

How strategies, landscapes, populations, their figures and their history are
kept, and the summary of a habitat.  An event is kept with an id of its own and
with its detail as a text.
-/

namespace Vivarium

instance Strategy.Kind.instRecord : Record Strategy.Kind :=
  .ofNames Strategy.Kind.all Strategy.Kind.name

instance : Record Strategy := .ofLayout <|
  Layout.start Strategy.mk
    |>.field "name" (·.name)
    |>.field "kind" (·.kind)
    |>.field "population_size" (·.populationSize)
    |>.field "mutation_rate" (·.mutationRate)
    |>.field "crossover_rate" (·.crossoverRate)
    |>.field "selection_pressure" (·.selectionPressure)
    |>.field "elitism_rate" (·.elitismRate)

instance : Record Objective := .ofLayout <|
  Layout.start Objective.mk
    |>.field "name" (·.name)
    |>.field "weight" (·.weight)
    |>.field "maximize" (·.maximize)

instance Constraint.Kind.instRecord : Record Constraint.Kind :=
  .ofNames Constraint.Kind.all Constraint.Kind.name

instance : Record Constraint := .ofLayout <|
  Layout.start Constraint.mk
    |>.field "name" (·.name)
    |>.field "kind" (·.kind)
    |>.field "condition" (·.condition)

instance : Record Landscape := .ofLayout <|
  Layout.start Landscape.mk
    |>.field "name" (·.name)
    |>.field "dimensions" (·.dimensions)
    |>.field "objectives" (·.objectives)
    |>.field "constraints" (·.constraints)

instance : Record Metrics := .ofLayout <|
  Layout.start Metrics.mk
    |>.field "size" (·.size)
    |>.field "mean_fitness" (·.meanFitness)
    |>.field "best_fitness" (·.bestFitness)
    |>.field "diversity" (·.diversity)
    |>.field "species_count" (·.speciesCount)
    |>.field "max_generation" (·.maxGeneration)

instance : Record Population := .ofLayout <|
  Layout.start Population.mk
    |>.field "name" (·.name)
    |>.field "strategy" (·.strategy)
    |>.field "organisms" (·.organisms)
    |>.field "created_at" (·.createdAt)
    |>.field "cycles" (·.cycles)
    |>.field "metrics" (·.metrics)

instance : Record SelectionReport := .ofLayout <|
  Layout.start SelectionReport.mk
    |>.field "population" (·.population)
    |>.field "strategy" (·.strategy)
    |>.field "size_before" (·.sizeBefore)
    |>.field "size_after" (·.sizeAfter)
    |>.field "survivors" (·.survivors)
    |>.field "elites" (·.elites)
    |>.field "offspring" (·.offspring)
    |>.field "crossovers" (·.crossovers)
    |>.field "mutations" (·.mutations)
    |>.field "metrics" (·.metrics)

instance : Record NurseryCounters := .ofLayout <|
  Layout.start NurseryCounters.mk
    |>.field "cycles" (·.cycles)
    |>.field "selections" (·.selections)
    |>.field "offspring" (·.offspring)
    |>.field "crossovers" (·.crossovers)
    |>.field "mutations" (·.mutations)
    |>.field "speciations" (·.speciations)
    |>.field "extinctions" (·.extinctions)
    |>.field "breakthroughs" (·.breakthroughs)

instance : Record HabitatCounters := .ofLayout <|
  Layout.start HabitatCounters.mk
    |>.field "cycles" (·.cycles)
    |>.field "organism_ticks" (·.organismTicks)
    |>.field "tick_failures" (·.tickFailures)
    |>.field "evolutions" (·.evolutions)
    |>.field "regenerations" (·.regenerations)

instance Habitat.Metrics.instRecord : Record Habitat.Metrics := .ofLayout <|
  Layout.start Habitat.Metrics.mk
    |>.field "organism_count" (·.organismCount)
    |>.field "active_count" (·.activeCount)
    |>.field "resting_count" (·.restingCount)
    |>.field "mean_fitness" (·.meanFitness)
    |>.field "mean_consciousness" (·.meanConsciousness)
    |>.field "mean_energy" (·.meanEnergy)
    |>.field "max_generation" (·.maxGeneration)
    |>.field "counters" (·.counters)
    |>.field "is_running" (·.isRunning)

/-- An event as it is kept outside of a log: under an id of its own. -/
structure FiledEvent where
  id : Uuid
  event : Event
  deriving Repr, DecidableEq

namespace FiledEvent

/-- The text of the detail. -/
def details (f : FiledEvent) : String := f.event.detail.text Uuid.render

/-- The event made of the fields that are kept. -/
def ofFields (id : Uuid) (kind : Event.Kind) (time : Instant) (organism : Option OrganismId)
    (population details : String) (impact : Float) : FiledEvent :=
  ⟨id, ⟨kind, time, organism, population, .note details, impact⟩⟩

end FiledEvent

instance Event.Kind.instRecord : Record Event.Kind := .ofNames Event.Kind.all Event.Kind.name

instance : Record FiledEvent := .ofLayout <|
  Layout.start FiledEvent.ofFields
    |>.field "id" (·.id)
    |>.field "kind" (·.event.kind)
    |>.field "timestamp" (·.event.time)
    |>.optional "organism_id" (·.event.organism)
    |>.field "population" (·.event.population)
    |>.field "details" FiledEvent.details
    |>.field "impact_score" (·.event.impact)

end Vivarium
