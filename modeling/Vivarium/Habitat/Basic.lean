import Vivarium.Breeding.Population
import Vivarium.Directory
import Vivarium.Habitat.Cycle

/-!
# Habitats

A habitat is where organisms live.  It keeps them by id, takes them through
their cycles with the randomness of its own stream, and counts what happens.
Every operation is a function from one habitat to the next; an operation that
fails gives a fault and no habitat.

Main definitions:

* `Habitat`: residents, random stream, counters, and whether it is open;
* `enroll`, `register`, `take?`, `modify`: residents come, go and are changed;
* `execute`, `evolve`, `tick`: cycles of one organism or of all;
* `Habitat.metrics`: a summary.
-/

namespace Vivarium

/-- Counts over the whole life of a habitat. -/
structure HabitatCounters where
  cycles : Nat
  organismTicks : Nat
  tickFailures : Nat
  evolutions : Nat
  regenerations : Nat
  deriving Repr, DecidableEq

/-- How many organisms met which outcome in a cycle of the habitat. -/
structure TickReport where
  ticked : Nat
  evolved : Nat
  failed : Nat
  resting : Nat
  resumed : Nat
  deriving Repr, DecidableEq

namespace TickReport

/-- The report of no cycle. -/
def empty : TickReport := ⟨0, 0, 0, 0, 0⟩

/-- The report with one more outcome. -/
def add (r : TickReport) : CycleOutcome → TickReport
  | .ticked evolved =>
      { r with ticked := r.ticked + 1, evolved := r.evolved + if evolved then 1 else 0 }
  | .failed => { r with failed := r.failed + 1 }
  | .resting => { r with resting := r.resting + 1 }
  | .resumed => { r with resumed := r.resumed + 1 }

/-- The number of outcomes in a report. -/
def total (r : TickReport) : Nat := r.ticked + r.failed + r.resting + r.resumed

theorem add_total (r : TickReport) (outcome : CycleOutcome) :
    (r.add outcome).total = r.total + 1 := by
  cases outcome <;> simp only [add, total] <;> omega

end TickReport

namespace HabitatCounters

/-- The counters of a new habitat. -/
def zero : HabitatCounters := ⟨0, 0, 0, 0, 0⟩

/-- The counters with what a report adds. -/
def record (c : HabitatCounters) (r : TickReport) : HabitatCounters :=
  { c with
    organismTicks := c.organismTicks + (r.ticked + r.failed)
    tickFailures := c.tickFailures + r.failed
    evolutions := c.evolutions + r.evolved
    regenerations := c.regenerations + (r.resting + r.resumed) }

end HabitatCounters

/-- Where organisms live. -/
structure Habitat where
  config : HabitatConfig
  residents : Directory OrganismId Resident
  rng : Rng
  counters : HabitatCounters
  isOpen : Bool

/-- Why an operation on a habitat fails. -/
inductive HabitatFault where
  | notFound (id : OrganismId)
  | shuttingDown
  deriving Repr, DecidableEq

/-- The complaint about a failed operation, in which ids are shown by the given
names. -/
def HabitatFault.message (nameOf : OrganismId → String) : HabitatFault → String
  | .notFound id => "Organism not found: " ++ nameOf id
  | .shuttingDown => "Runtime engine is shutting down"

namespace Habitat

/-- A habitat without organisms, with its own random stream. -/
def founded (config : HabitatConfig) (rng : Rng) : Habitat :=
  ⟨config, Directory.empty, rng, HabitatCounters.zero, true⟩

/-! ## Residents -/

/-- The organism registered under an id. -/
def find? (h : Habitat) (id : OrganismId) : Option Organism :=
  (h.residents.find? id).map (·.organism)

/-- The id is registered. -/
def contains (h : Habitat) (id : OrganismId) : Bool := h.residents.contains id

/-- The registered ids in ascending order. -/
def ids (h : Habitat) : List OrganismId := h.residents.keys

/-- The organisms in ascending order of their ids. -/
def organisms (h : Habitat) : List Organism := h.residents.values.map (·.organism)

/-- The ids of the resting organisms in ascending order. -/
def restingIds (h : Habitat) : List OrganismId :=
  (h.residents.entries.filter fun entry => entry.2.resting).map (·.1)

/-- The organism registered under an id is resting. -/
def isResting (h : Habitat) (id : OrganismId) : Bool :=
  (h.residents.find? id).any (·.resting)

/-- The habitat with one more organism, normalized, and the organism as it is
registered: under its own id, or under a fresh one if that is taken. -/
def enroll (h : Habitat) (supply : IdSupply) (o : Organism) : Organism × Habitat × IdSupply :=
  let (id, supply) := if h.contains o.id then supply.next else (o.id, supply)
  let registered := { o with id := id }.normalize
  (registered, { h with residents := h.residents.insert id ⟨registered, false⟩ }, supply)

/-- The habitat with one more organism, as long as it is open. -/
def register (h : Habitat) (supply : IdSupply) (o : Organism) :
    Except HabitatFault (Organism × Habitat × IdSupply) :=
  if h.isOpen then .ok (h.enroll supply o) else .error .shuttingDown

/-- The organism registered under an id, and the habitat without it. -/
def take? (h : Habitat) (id : OrganismId) : Option (Organism × Habitat) :=
  (h.find? id).map fun o => (o, { h with residents := h.residents.erase id })

/-- The resident registered under an id. -/
def resident (h : Habitat) (id : OrganismId) : Except HabitatFault Resident :=
  match h.residents.find? id with
  | some r => .ok r
  | none => .error (.notFound id)

/-- The habitat with another resident under an id. -/
def put (h : Habitat) (id : OrganismId) (r : Resident) : Habitat :=
  { h with residents := h.residents.insert id r }

/-- The habitat with a registered organism changed by a function. -/
def modify (h : Habitat) (id : OrganismId) (f : Organism → Organism) :
    Except HabitatFault Habitat := do
  let r ← h.resident id
  return h.put id { r with organism := f r.organism }

/-! ## Cycles -/

/-- The habitat after one cycle of a registered organism. -/
def execute (h : Habitat) (id : OrganismId) (now : Instant) : Except HabitatFault Habitat := do
  let r ← h.resident id
  let ((cycled, outcome), rng) := (r.cycle h.config now).run h.rng
  let counters := h.counters.record (TickReport.empty.add outcome)
  return { h.put id cycled with rng := rng, counters := counters }

/-- The habitat after a forced step of evolution of a registered organism, and
whether the organism changed. -/
def evolve (h : Habitat) (id : OrganismId) (now : Instant) :
    Except HabitatFault (Bool × Habitat) := do
  let r ← h.resident id
  let ((evolved, outcome), rng) := (r.organism.evolve now).run h.rng
  let evolutions := h.counters.evolutions + if outcome.isSome then 1 else 0
  return (outcome.isSome,
    { h.put id { r with organism := evolved } with
      rng := rng
      counters := { h.counters with evolutions := evolutions } })

/-- One organism's share in a cycle of the habitat, with the random stream and the
report so far. -/
def visit (config : HabitatConfig) (now : Instant) (_id : OrganismId) (r : Resident)
    (s : Rng × TickReport) : Resident × (Rng × TickReport) :=
  let ((cycled, outcome), rng) := (r.cycle config now).run s.1
  (cycled, (rng, s.2.add outcome))

/-- The habitat after a cycle of all organisms in ascending order of their ids,
and the report of the cycle. -/
def tick (h : Habitat) (now : Instant) : TickReport × Habitat :=
  let (residents, rng, report) :=
    h.residents.traverse (visit h.config now) (h.rng, TickReport.empty)
  let counters := h.counters.record report
  (report,
    { h with
      residents := residents
      rng := rng
      counters := { counters with cycles := counters.cycles + 1 } })

/-- The habitat closed to new organisms. -/
def shutdown (h : Habitat) : Habitat := { h with isOpen := false }

/-! ## Summary -/

/-- A summary of a habitat. -/
structure Metrics where
  organismCount : Nat
  activeCount : Nat
  restingCount : Nat
  meanFitness : Float
  meanConsciousness : Float
  meanEnergy : Float
  maxGeneration : UInt64
  counters : HabitatCounters
  isRunning : Bool
  deriving Repr, DecidableEq

/-- The mean of a value over all organisms; zero without organisms. -/
def mean (h : Habitat) (value : State → Float) : Float :=
  if h.residents.isEmpty then 0.0
  else
    Number.sum (h.organisms.map fun o => value o.state) / Number.ofNat h.residents.size

/-- The summary of a habitat. -/
def metrics (h : Habitat) : Metrics :=
  { organismCount := h.residents.size
    activeCount := h.residents.size - h.restingIds.length
    restingCount := h.restingIds.length
    meanFitness := h.mean (·.fitness)
    meanConsciousness := h.mean (·.consciousness)
    meanEnergy := h.mean (·.energy)
    maxGeneration := h.organisms.foldl (fun g o => max g o.state.generation) 0
    counters := h.counters
    isRunning := h.isOpen }

end Habitat

end Vivarium
