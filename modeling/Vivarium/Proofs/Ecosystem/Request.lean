import Vivarium.Ecosystem
import Vivarium.Proofs.Breeding.Supply

/-!
# Requests to an ecosystem

All that can be asked of an ecosystem, as data, so that a run is a sequence of
requests and an invariant of runs is a statement about one of them.

The states that an ecosystem comes to are taken without requests that modify an
organism by a function from outside: such a function may give the organism any id
and any values.  A run draws on a supply whose first ids are different, uses only
these, and brings no organism that has one of them in advance; this is what it
means for the supply to be fresh.

Main definitions:

* `Request`, `Ecosystem.perform`: a request and what comes of it;
* `Request.Modifies`, `KeepsIds`, `Leads`: what a function from outside may do to organisms;
* `Ecosystem.Reachable`: the states after any number of requests.
-/

namespace Vivarium

/-- A request to an ecosystem, with the type of its answer. -/
inductive Request : Type → Type 1 where
  | register (o : Organism) : Request Organism
  | execute (id : OrganismId) : Request Unit
  | evolve (id : OrganismId) : Request Bool
  | modify (id : OrganismId) (f : Organism → Organism) : Request Unit
  | remove (id : OrganismId) : Request Bool
  | tick : Request TickReport
  | shutdown : Request Unit
  | registerStrategy (s : Strategy) : Request Unit
  | registerLandscape (l : Landscape) : Request Unit
  | createPopulation (name : String) (seeds : List Organism) (strategyName : String) :
      Request Metrics
  | removePopulation (name : String) : Request Population
  | performSelection (name strategyName : String) : Request SelectionReport
  | runCycle : Request (List SelectionReport)
  | harvest (ids : List OrganismId) (population strategyName : String) :
      Request (List OrganismId)
  | release (population : String) (ids : List OrganismId) : Request (List Organism)
  | releaseAll (population : String) : Request (List Organism)

namespace Request

variable {α : Type}

/-- The request puts a function from outside in charge of an organism. -/
def Modifies : Request α → Prop
  | modify _ _ => True
  | _ => False

/-- The request makes no other organism of a resident.  Only a function from outside could
do that. -/
def KeepsIds : Request α → Prop
  | modify _ f => ∀ o, (f o).id = o.id
  | _ => True

theorem keepsIds_of_not_modifies {request : Request α} (faithful : ¬request.Modifies) :
    request.KeepsIds := by
  cases request with
  | modify id f => exact absurd trivial faithful
  | _ => exact trivial

/-- A function from outside turns every organism of the one trait into one of the other. -/
def Leads (Before After : Organism → Prop) : Request α → Prop
  | modify _ f => ∀ o, Before o → After (f o)
  | _ => True

theorem leads_of_not_modifies {request : Request α} {Before After : Organism → Prop}
    (faithful : ¬request.Modifies) : request.Leads Before After := by
  cases request with
  | modify id f => exact absurd trivial faithful
  | _ => exact trivial

/-- The organisms that a request brings. -/
def entering : Request α → List Organism
  | register o => [o]
  | createPopulation _ seeds _ => seeds
  | _ => []

end Request

namespace Ecosystem

/-- A failure of the habitat as one of the ecosystem. -/
def ofHabitat {α : Type} (result : Except HabitatFault α) : Except EcosystemFault α :=
  result.mapError .habitat

/-- The ecosystem after a request at some time, and the answer. -/
def perform {α : Type} (e : Ecosystem) (now : Instant) :
    Request α → Except EcosystemFault (α × Ecosystem)
  | .register o => do
      let (registered, habitat, supply) ← ofHabitat (e.habitat.register e.supply o)
      return (registered, ⟨habitat, e.nursery, supply⟩)
  | .execute id => do
      let habitat ← ofHabitat (e.habitat.execute id now)
      return ((), { e with habitat := habitat })
  | .evolve id => do
      let (evolved, habitat) ← ofHabitat (e.habitat.evolve id now)
      return (evolved, { e with habitat := habitat })
  | .modify id f => do
      let habitat ← ofHabitat (e.habitat.modify id f)
      return ((), { e with habitat := habitat })
  | .remove id =>
      match e.habitat.take? id with
      | some (_, habitat) => .ok (true, { e with habitat := habitat })
      | none => .ok (false, e)
  | .tick =>
      let (report, habitat) := e.habitat.tick now
      .ok (report, { e with habitat := habitat })
  | .shutdown => .ok ((), { e with habitat := e.habitat.shutdown })
  | .registerStrategy s => do
      let nursery ← ofNursery (e.nursery.registerStrategy s)
      return ((), { e with nursery := nursery })
  | .registerLandscape l => do
      let nursery ← ofNursery (e.nursery.registerLandscape l)
      return ((), { e with nursery := nursery })
  | .createPopulation name seeds strategyName => do
      let (metrics, nursery, supply) ←
        ofNursery (e.nursery.createPopulation e.supply name seeds strategyName now)
      return (metrics, ⟨e.habitat, nursery, supply⟩)
  | .removePopulation name => do
      let (removed, nursery) ← ofNursery (e.nursery.removePopulation name)
      return (removed, { e with nursery := nursery })
  | .performSelection name strategyName => do
      let (report, nursery, supply) ←
        ofNursery (e.nursery.performSelection e.supply name strategyName now)
      return (report, ⟨e.habitat, nursery, supply⟩)
  | .runCycle => do
      let (reports, nursery, supply) ← ofNursery (e.nursery.runCycle e.supply now)
      return (reports, ⟨e.habitat, nursery, supply⟩)
  | .harvest ids population strategyName => e.harvest ids population strategyName now
  | .release population ids => e.release population ids
  | .releaseAll population => e.releaseAll population

/-- The states of an ecosystem after any number of requests that modify no organism,
while no more ids are given out than the first `limit` ones of its supply, which are
all different and come with no organism in advance. -/
inductive Reachable (limit : Nat) : Ecosystem → Prop where
  | founded (c : Config) (habitatSeed nurserySeed : Nat) (supply : IdSupply)
      (distinct : supply.DistinctUpTo limit) :
      Reachable limit (founded c habitatSeed nurserySeed supply)
  | step {α : Type} {e later : Ecosystem} {now : Instant} {request : Request α} {answer : α}
      (before : Reachable limit e) (faithful : ¬request.Modifies)
      (entering : ∀ o ∈ request.entering, ¬e.supply.Pending limit o.id)
      (performed : e.perform now request = .ok (answer, later))
      (room : later.supply.issued ≤ limit) : Reachable limit later

end Ecosystem

end Vivarium
