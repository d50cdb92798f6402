import Vivarium.Proofs.Ecosystem.Request

/-!
# Requests served in place

The operations on an ecosystem are functions, and a fault gives no ecosystem at all.
A program that serves requests works on one ecosystem in place: it looks things up,
draws, and writes, in some order, and what it has written before it meets a fault
stays written.  This module gives the program of each request, with its lookups and
writes in their order.

Some programs write before they know that nothing is at fault.  A population is
removed whether it is there or not, and missed afterwards.  A cycle over all
populations selects on one after the other and leaves out those that are gone.  A
release of all is a release and a removal, each with checks of its own.

Main definitions:

* `Service`, `Service.outcome`: programs, and what they come to;
* `Service.serve`: the program of each request.
-/

namespace Vivarium

/-- A program that works on an ecosystem and may fail.  What it has written stays
written when it fails. -/
abbrev Service := ExceptT EcosystemFault (StateM Ecosystem)

namespace Service

variable {α β : Type}

/-- The answer or the fault of a program, and the ecosystem afterwards. -/
def outcome (program : Service α) (e : Ecosystem) : Except EcosystemFault α × Ecosystem :=
  program.run.run e

/-! ## Steps -/

/-- A step that writes. -/
def write (f : Ecosystem → Ecosystem) : Service Unit := modify f

/-- A value that is there, or a fault. -/
def find (value : Option α) (fault : EcosystemFault) : Service α :=
  match value with
  | some value => return value
  | none => throw fault

/-- The next fresh id. -/
def freshId : Service OrganismId := do
  let e ← get
  write fun e => { e with supply := e.supply.next.2 }
  return e.supply.next.1

/-- Words of the stream of the habitat. -/
def drawInHabitat (draw : Draw α) : Service α := do
  let e ← get
  let (value, rng) := draw.run e.habitat.rng
  write fun e => { e with habitat := { e.habitat with rng := rng } }
  return value

/-- Words of the stream of the nursery. -/
def drawInNursery (draw : Draw α) : Service α := do
  let e ← get
  let (value, rng) := draw.run e.nursery.rng
  write fun e => { e with nursery := { e.nursery with rng := rng } }
  return value

def resident (id : OrganismId) : Service Resident := do
  find ((← get).habitat.residents.find? id) (.habitat (.notFound id))

def strategy (name : String) : Service Strategy := do
  find ((← get).nursery.strategies.find? name) (.nursery (.strategyNotFound name))

def landscape (name : String) : Service Landscape := do
  find ((← get).nursery.landscapes.find? name) (.nursery (.landscapeNotFound name))

def population (name : String) : Service Population := do
  find ((← get).nursery.populations.find? name) (.nursery (.populationNotFound name))

def putResident (id : OrganismId) (r : Resident) : Service Unit :=
  write fun e => { e with habitat := e.habitat.put id r }

def putPopulation (name : String) (p : Population) : Service Unit :=
  write fun e => { e with nursery := e.nursery.put name p }

def countInHabitat (f : HabitatCounters → HabitatCounters) : Service Unit :=
  write fun e => { e with habitat := { e.habitat with counters := f e.habitat.counters } }

def countInNursery (f : NurseryCounters → NurseryCounters) : Service Unit :=
  write fun e => { e with nursery := { e.nursery with counters := f e.nursery.counters } }

def recordEvents (events : List Event) : Service Unit :=
  write fun e =>
    { e with nursery := { e.nursery with history := e.nursery.history.pushAll events } }

/-- The id under which an organism is admitted to a place that may hold its own. -/
def idInPlace (held : Bool) (own : OrganismId) : Service OrganismId :=
  if held then freshId else return own

/-! ## The habitat -/

def receive (o : Organism) : Service Organism := do
  let id ← idInPlace ((← get).habitat.contains o.id) o.id
  let registered := { o with id := id }.normalize
  putResident id ⟨registered, false⟩
  return registered

def register (o : Organism) : Service Organism := do
  if !(← get).habitat.isOpen then throw (.habitat .shuttingDown)
  receive o

def execute (id : OrganismId) (now : Instant) : Service Unit := do
  let r ← resident id
  let (cycled, outcome) ← drawInHabitat (r.cycle (← get).habitat.config now)
  putResident id cycled
  countInHabitat fun counters => counters.record (TickReport.empty.add outcome)

def evolve (id : OrganismId) (now : Instant) : Service Bool := do
  let r ← resident id
  let (evolved, outcome) ← drawInHabitat (r.organism.evolve now)
  putResident id { r with organism := evolved }
  countInHabitat fun counters =>
    { counters with evolutions := counters.evolutions + if outcome.isSome then 1 else 0 }
  return outcome.isSome

def modifyOrganism (id : OrganismId) (f : Organism → Organism) : Service Unit := do
  let r ← resident id
  putResident id { r with organism := f r.organism }

/-- A resident goes, and its mark with it. -/
def take (id : OrganismId) : Service (Option Organism) := do
  let found := (← get).habitat.find? id
  write fun e => { e with habitat := { e.habitat with residents := e.habitat.residents.erase id } }
  return found

def tick (now : Instant) : Service TickReport := do
  let (report, habitat) := (← get).habitat.tick now
  write fun e => { e with habitat := habitat }
  return report

/-! ## The nursery -/

def registerStrategy (s : Strategy) : Service Unit := do
  if let some fault := s.fault? then throw (.nursery (.invalidStrategy s.name fault))
  write fun e =>
    { e with nursery := { e.nursery with strategies := e.nursery.strategies.insert s.name s } }

def registerLandscape (l : Landscape) : Service Unit := do
  if let some fault := l.fault? then throw (.nursery (.invalidLandscape l.name fault))
  write fun e =>
    { e with nursery := { e.nursery with landscapes := e.nursery.landscapes.insert l.name l } }

/-- An organism admitted to a population, which is not written yet. -/
def receiveIn (p : Population) (o : Organism) : Service (OrganismId × Population) := do
  let id ← idInPlace (p.contains o.id) o.id
  return (id, { p with organisms := p.organisms ++ [{ o with id := id }.normalize] })

def receiveSeeds : Population → List Organism → Service Population
  | p, [] => return p
  | p, seed :: rest => do
      let (_, p) ← receiveIn p seed
      receiveSeeds p rest

def receiveClones (now : Instant) : Population → List Clone → Service (Population × List Event)
  | p, [] => return (p, [])
  | p, clone :: rest => do
      let id ← freshId
      let (_, grown) ← receiveIn p { clone.organism with id := id }
      let (p, events) ← receiveClones now grown rest
      return (p, clone.event id grown.name now :: events)

/-- A population filled with clones and with new figures, which is not written yet. -/
def fill (p : Population) (seeds : List Organism) (size : Nat) (now : Instant) :
    Service Population := do
  let clones ← drawInNursery (drawClones seeds now (size - p.size))
  let (p, events) ← receiveClones now p clones
  countInNursery fun counters => { counters with mutations := counters.mutations + events.length }
  recordEvents events
  return p.remeasure (← get).nursery.config.speciesBucketWidth

def createPopulation (name : String) (seeds : List Organism) (strategyName : String)
    (now : Instant) : Service Metrics := do
  let strategy ← strategy strategyName
  if seeds.isEmpty then throw (.nursery (.emptySeed name))
  if (← get).nursery.populations.contains name then throw (.nursery (.populationExists name))
  let p ← receiveSeeds (Population.founded name strategy.name now) seeds
  let p ← fill p seeds strategy.populationSize now
  putPopulation name p
  return p.metrics

/-- A population is removed whether it is there or not, and missed afterwards. -/
def removePopulation (name : String) : Service Population := do
  let removed := (← get).nursery.populations.find? name
  write fun e =>
    { e with nursery := { e.nursery with populations := e.nursery.populations.erase name } }
  find removed (.nursery (.populationNotFound name))

def performSelection (name strategyName : String) (now : Instant) : Service SelectionReport := do
  let strategy ← strategy strategyName
  let landscape ← landscape (← get).nursery.config.defaultLandscape
  let p ← population name
  let e ← get
  let selected := select e.nursery.config strategy landscape now p e.nursery.rng e.supply
  write fun e =>
    { e with nursery := { e.nursery with rng := selected.rng }, supply := selected.supply }
  putPopulation name selected.population
  countInNursery fun counters => counters.record selected.report selected.events
  recordEvents selected.events
  return selected.report

/-- A program whose fault, if any, is an answer to go on with. -/
def attempt (program : Service α) : Service (Except EcosystemFault α) :=
  ExceptT.lift program.run

/-- Selection on some populations in order.  A population that is gone is left out. -/
def selectEach (strategyName : String) (now : Instant) :
    List String → Service (List SelectionReport)
  | [] => return []
  | name :: rest => do
      match ← attempt (performSelection name strategyName now) with
      | .ok report => return report :: (← selectEach strategyName now rest)
      | .error (.nursery (.populationNotFound _)) => selectEach strategyName now rest
      | .error fault => throw fault

def runCycle (now : Instant) : Service (List SelectionReport) := do
  let strategyName := (← get).nursery.config.defaultStrategy
  let _ ← strategy strategyName
  let reports ← selectEach strategyName now (← get).nursery.populationNames
  countInNursery fun counters => { counters with cycles := counters.cycles + 1 }
  return reports

/-! ## Transfers -/

/-- Organisms move one by one into a population, which is written each time. -/
def moveInto (name : String) :
    Population → List OrganismId → Service (List OrganismId × List Organism × Population)
  | target, [] => return ([], [], target)
  | target, id :: rest => do
      match ← take id with
      | none => moveInto name target rest
      | some o =>
          let (settled, target) ← receiveIn target o
          putPopulation name target
          let (moved, seeds, target) ← moveInto name target rest
          return (settled :: moved, o :: seeds, target)

/-- A population that is missing is put in its place before anything moves. -/
def harvest (ids : List OrganismId) (name strategyName : String) (now : Instant) :
    Service (List OrganismId) := do
  let strategy ← strategy strategyName
  let e ← get
  if let some missing := ids.find? fun id => !e.habitat.contains id then
    throw (.habitat (.notFound missing))
  let existing := e.nursery.populations.find? name
  let target := existing.getD (Population.founded name strategy.name now)
  if existing.isNone then putPopulation name target
  let (moved, seeds, target) ← moveInto name target ids
  let filled ← fill target seeds (if existing.isSome then 0 else strategy.populationSize) now
  putPopulation name filled
  return moved

/-- Organisms move one by one out of a population, which is written each time. -/
def moveOutOf (name : String) :
    Population → List OrganismId → Service (List Organism × Population)
  | source, [] => return ([], source)
  | source, id :: rest => do
      match source.take? id with
      | none => moveOutOf name source rest
      | some (o, left) =>
          putPopulation name left
          let registered ← receive o
          let (released, left) ← moveOutOf name left rest
          return (registered :: released, left)

def release (name : String) (ids : List OrganismId) : Service (List Organism) := do
  let source ← population name
  if let some missing := ids.find? fun id => !source.contains id then
    throw (.nursery (.organismNotInPopulation missing name))
  let (released, left) ← moveOutOf name source ids
  putPopulation name (left.remeasure (← get).nursery.config.speciesBucketWidth)
  return released

def releaseAll (name : String) : Service (List Organism) := do
  let source ← population name
  let released ← release name source.ids
  let _ ← removePopulation name
  return released

/-- The program of each request. -/
def serve (now : Instant) : Request α → Service α
  | .register o => register o
  | .execute id => execute id now
  | .evolve id => evolve id now
  | .modify id f => modifyOrganism id f
  | .remove id => Option.isSome <$> take id
  | .tick => tick now
  | .shutdown => write fun e => { e with habitat := e.habitat.shutdown }
  | .registerStrategy s => registerStrategy s
  | .registerLandscape l => registerLandscape l
  | .createPopulation name seeds strategyName => createPopulation name seeds strategyName now
  | .removePopulation name => removePopulation name
  | .performSelection name strategyName => performSelection name strategyName now
  | .runCycle => runCycle now
  | .harvest ids population strategyName => harvest ids population strategyName now
  | .release population ids => release population ids
  | .releaseAll population => releaseAll population

end Service

end Vivarium
