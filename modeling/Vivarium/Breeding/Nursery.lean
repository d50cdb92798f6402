import Vivarium.Breeding.Selection
import Vivarium.Directory

/-!
# Nurseries

A nursery breeds populations.  It knows strategies and landscapes by name, owns
a random stream, keeps the history of what happened and counts it.  Every
operation is a function from one nursery to the next; an operation that fails
gives a fault and no nursery.

Main definitions:

* `Nursery`: populations, strategies, landscapes, history, counters, stream;
* `registerStrategy`, `registerLandscape`: what it may breed with;
* `createPopulation`, `fill`, `removePopulation`: populations come and go;
* `performSelection`, `runCycle`: selection on one population or on all.
-/

namespace Vivarium

/-- Counts over the whole life of a nursery. -/
structure NurseryCounters where
  cycles : Nat
  selections : Nat
  offspring : Nat
  crossovers : Nat
  mutations : Nat
  speciations : Nat
  extinctions : Nat
  breakthroughs : Nat
  deriving Repr, DecidableEq

namespace NurseryCounters

/-- The counters of a new nursery. -/
def zero : NurseryCounters := ⟨0, 0, 0, 0, 0, 0, 0, 0⟩

/-- The number of events of a kind. -/
def countKind (kind : Event.Kind) (events : List Event) : Nat :=
  events.countP fun event => event.kind = kind

/-- The counters with one more selection. -/
def record (c : NurseryCounters) (r : SelectionReport) (events : List Event) :
    NurseryCounters :=
  { c with
    selections := c.selections + 1
    offspring := c.offspring + r.offspring
    crossovers := c.crossovers + r.crossovers
    mutations := c.mutations + r.mutations
    speciations := c.speciations + countKind .speciation events
    extinctions := c.extinctions + countKind .extinction events
    breakthroughs := c.breakthroughs + countKind .breakthrough events }

end NurseryCounters

/-- Where populations are bred. -/
structure Nursery where
  config : NurseryConfig
  populations : Directory String Population
  strategies : Directory String Strategy
  landscapes : Directory String Landscape
  history : EventLog
  counters : NurseryCounters
  rng : Rng

/-- Why an operation on a nursery fails. -/
inductive NurseryFault where
  | populationNotFound (name : String)
  | populationExists (name : String)
  | strategyNotFound (name : String)
  | landscapeNotFound (name : String)
  | emptySeed (population : String)
  | invalidStrategy (name : String) (fault : Strategy.Fault)
  | invalidLandscape (name : String) (fault : Landscape.Fault)
  | organismNotInPopulation (id : OrganismId) (population : String)
  deriving Repr, DecidableEq

/-- The complaint about a failed operation, in which ids are shown by the given
names. -/
def NurseryFault.message (nameOf : OrganismId → String) : NurseryFault → String
  | .populationNotFound name => "Population not found: " ++ name
  | .populationExists name => "Population already exists: " ++ name
  | .strategyNotFound name => "Evolution strategy not found: " ++ name
  | .landscapeNotFound name => "Fitness landscape not found: " ++ name
  | .emptySeed population =>
      "Population " ++ population ++ " needs at least one seed organism"
  | .invalidStrategy name fault =>
      "Invalid evolution strategy " ++ name ++ ": " ++ fault.message
  | .invalidLandscape name fault =>
      "Invalid fitness landscape " ++ name ++ ": " ++ fault.message
  | .organismNotInPopulation id population =>
      "Organism " ++ nameOf id ++ " not found in population " ++ population

namespace Nursery

/-- A nursery without populations, with the standard strategies and landscape. -/
def founded (config : NurseryConfig) (rng : Rng) : Nursery :=
  { config := config
    populations := Directory.empty
    strategies := Directory.ofList (Strategy.standard.map fun s => (s.name, s))
    landscapes := Directory.ofList [(Landscape.standard.name, Landscape.standard)]
    history := EventLog.withCapacity config.historyCapacity
    counters := NurseryCounters.zero
    rng := rng }

/-! ## Strategies and landscapes -/

/-- The nursery with a strategy, in place of an older one of its name. -/
def registerStrategy (n : Nursery) (s : Strategy) : Except NurseryFault Nursery :=
  match s.fault? with
  | some fault => .error (.invalidStrategy s.name fault)
  | none => .ok { n with strategies := n.strategies.insert s.name s }

/-- The nursery with a landscape, in place of an older one of its name. -/
def registerLandscape (n : Nursery) (l : Landscape) : Except NurseryFault Nursery :=
  match l.fault? with
  | some fault => .error (.invalidLandscape l.name fault)
  | none => .ok { n with landscapes := n.landscapes.insert l.name l }

/-- The strategy of a name. -/
def strategy (n : Nursery) (name : String) : Except NurseryFault Strategy :=
  match n.strategies.find? name with
  | some s => .ok s
  | none => .error (.strategyNotFound name)

/-- The landscape of a name. -/
def landscape (n : Nursery) (name : String) : Except NurseryFault Landscape :=
  match n.landscapes.find? name with
  | some l => .ok l
  | none => .error (.landscapeNotFound name)

/-- The score of an organism in a landscape of the nursery. -/
def fitness (n : Nursery) (o : Organism) (landscape : String) : Except NurseryFault Float := do
  let l ← n.landscape landscape
  return l.evaluate o

/-! ## Populations -/

/-- The population of a name. -/
def population (n : Nursery) (name : String) : Except NurseryFault Population :=
  match n.populations.find? name with
  | some p => .ok p
  | none => .error (.populationNotFound name)

/-- The nursery with a population under its name. -/
def put (n : Nursery) (name : String) (p : Population) : Nursery :=
  { n with populations := n.populations.insert name p }

/-- A population filled up to a size with clones of seeds, its figures taken anew.
The nursery gives the randomness and records the clones; the population is not
yet part of it. -/
def fill (n : Nursery) (p : Population) (seeds : List Organism) (size : Nat) (now : Instant)
    (supply : IdSupply) : Population × Nursery × IdSupply :=
  let (clones, rng) := (drawClones seeds now (size - p.size)).run n.rng
  let (p, events, supply) := enrollClones p now supply clones
  let mutations := n.counters.mutations + events.length
  (p.remeasure n.config.speciesBucketWidth,
    { n with
      rng := rng
      counters := { n.counters with mutations := mutations }
      history := n.history.pushAll events },
    supply)

/-- A population with organisms admitted in order, and the ids under which they
are held. -/
def enrollAll (p : Population) (supply : IdSupply) :
    List Organism → List OrganismId × Population × IdSupply
  | [] => ([], p, supply)
  | o :: rest =>
      let (id, p, supply) := p.enroll supply o
      let (ids, p, supply) := enrollAll p supply rest
      (id :: ids, p, supply)

/-- The nursery with a new population of seeds and of clones up to the size of the
strategy, and its figures. -/
def createPopulation (n : Nursery) (supply : IdSupply) (name : String)
    (seeds : List Organism) (strategyName : String) (now : Instant) :
    Except NurseryFault (Metrics × Nursery × IdSupply) := do
  let strategy ← n.strategy strategyName
  if seeds.isEmpty then throw (.emptySeed name)
  if n.populations.contains name then throw (.populationExists name)
  let (_, p, supply) := enrollAll (Population.founded name strategy.name now) supply seeds
  let (p, n, supply) := n.fill p seeds strategy.populationSize now supply
  return (p.metrics, n.put name p, supply)

/-- The nursery without a population, and that population. -/
def removePopulation (n : Nursery) (name : String) :
    Except NurseryFault (Population × Nursery) := do
  let p ← n.population name
  return (p, { n with populations := n.populations.erase name })

/-- The names of the populations in ascending order. -/
def populationNames (n : Nursery) : List String := n.populations.keys

/-! ## Selection -/

/-- The nursery after a cycle of selection on a population. -/
def performSelection (n : Nursery) (supply : IdSupply) (name strategyName : String)
    (now : Instant) : Except NurseryFault (SelectionReport × Nursery × IdSupply) := do
  let strategy ← n.strategy strategyName
  let landscape ← n.landscape n.config.defaultLandscape
  let p ← n.population name
  let result := select n.config strategy landscape now p n.rng supply
  return (result.report,
    { n.put name result.population with
      rng := result.rng
      counters := n.counters.record result.report result.events
      history := n.history.pushAll result.events },
    result.supply)

/-- The nursery after a cycle of selection on each of some populations, in order. -/
def selectAll (n : Nursery) (supply : IdSupply) (strategyName : String) (now : Instant) :
    List String → Except NurseryFault (List SelectionReport × Nursery × IdSupply)
  | [] => .ok ([], n, supply)
  | name :: rest => do
      let (report, n, supply) ← n.performSelection supply name strategyName now
      let (reports, n, supply) ← selectAll n supply strategyName now rest
      return (report :: reports, n, supply)

/-- The nursery after a cycle of selection on all populations with the strategy of
its configuration. -/
def runCycle (n : Nursery) (supply : IdSupply) (now : Instant) :
    Except NurseryFault (List SelectionReport × Nursery × IdSupply) := do
  let _ ← n.strategy n.config.defaultStrategy
  let (reports, n, supply) ←
    n.selectAll supply n.config.defaultStrategy now n.populationNames
  return (reports, { n with counters := { n.counters with cycles := n.counters.cycles + 1 } },
    supply)

/-! ## Summary -/

/-- A summary of a nursery. -/
structure Metrics where
  populationCount : Nat
  totalOrganisms : Nat
  populations : List (String × Vivarium.Metrics)
  counters : NurseryCounters
  historyLength : Nat
  deriving Repr, DecidableEq

/-- The summary of a nursery. -/
def metrics (n : Nursery) : Metrics :=
  { populationCount := n.populations.size
    totalOrganisms := n.populations.values.foldl (fun total p => total + p.size) 0
    populations := n.populations.entries.map fun entry => (entry.1, entry.2.metrics)
    counters := n.counters
    historyLength := n.history.size }

end Nursery

end Vivarium
