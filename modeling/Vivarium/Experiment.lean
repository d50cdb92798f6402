import Vivarium.Scheduler

/-!
# Experiments

An experiment takes a group of organisms through a number of ticks of their
habitat and may then breed them: they are harvested into a population, bred for a
number of cycles, and released.  Each step takes place at an instant of its own.
An experiment that runs live is bred and ticks at the same time, as long as its
schedulers are due.

Main definitions:

* `registerAll`: organisms that enter the habitat;
* `tickMany`, `breed`: the two parts of an experiment that is stepped by hand;
* `live`: an experiment that runs for a span of time.
-/

namespace Vivarium.Ecosystem

/-- The ecosystem with organisms registered in order, and the organisms as they
are registered. -/
def registerAll (e : Ecosystem) : List Organism → Except EcosystemFault (List Organism × Ecosystem)
  | [] => .ok ([], e)
  | o :: rest => do
      let (registered, habitat, supply) ← (e.habitat.register e.supply o).mapError .habitat
      let (others, e) ← registerAll { e with habitat := habitat, supply := supply } rest
      return (registered :: others, e)

/-- The ecosystem after ticks at some instants, and how many a scheduler counts. -/
def tickMany (e : Ecosystem) (instants : List Instant) : Nat × Ecosystem :=
  let start := Scheduler.stopped e.habitat.config.tickInterval
  let (scheduler, e) := Scheduler.stepAt tickOnce instants start e
  (scheduler.ticks, e)

/-- The ecosystem after breeding cycles at some instants, and how many a scheduler
counts. -/
def cycleMany (e : Ecosystem) (instants : List Instant) : Nat × Ecosystem :=
  let start := Scheduler.stopped e.nursery.config.cycleInterval
  let (scheduler, e) := Scheduler.stepAt cycleOnce instants start e
  (scheduler.ticks, e)

/-- What breeding a group of organisms comes to. -/
structure Bred where
  cycles : Nat
  released : List Organism
  ecosystem : Ecosystem

/-- The ecosystem after organisms were harvested into a population, bred in cycles
at some later instants under the standard strategy, and released with all others
of the population. -/
def breed (e : Ecosystem) (ids : List OrganismId) (population : String) (now : Instant)
    (instants : List Instant) : Except EcosystemFault Bred := do
  let (_, e) ← e.harvest ids population e.nursery.config.defaultStrategy now
  let (counted, e) := e.cycleMany instants
  let (released, e) ← e.releaseAll population
  return ⟨counted, released, e⟩

/-- A target that is run at the instants of its schedule. -/
def timed (period : Span) (target : Instant → Ecosystem → Ecosystem) (s : Instant × Ecosystem) :
    Instant × Ecosystem :=
  let now := s.1.add period
  (now, target now s.2)

/-- The ecosystem after a scheduler has run a target for a span of time, and how
many runs it counts. -/
def scheduled (e : Ecosystem) (period duration : Span) (now : Instant)
    (target : Instant → Ecosystem → Ecosystem) : Nat × Ecosystem :=
  let (scheduler, _, e) :=
    (Scheduler.started period).sleep duration.totalNanos (timed period target) (now, e)
  (scheduler.ticks, e)

/-- What a live experiment comes to. -/
structure Lived where
  ticks : Nat
  cycles : Nat
  ecosystem : Ecosystem

/-- The ecosystem after both schedulers have run for a span of time.  Ticks act on
the habitat and cycles on the nursery, so their order does not matter. -/
def live (e : Ecosystem) (duration : Span) (now : Instant) : Lived :=
  let (ticks, e) := e.scheduled e.habitat.config.tickInterval duration now tickOnce
  let (cycles, e) := e.scheduled e.nursery.config.cycleInterval duration now cycleOnce
  ⟨ticks, cycles, e⟩

end Vivarium.Ecosystem
