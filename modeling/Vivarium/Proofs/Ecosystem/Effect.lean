import Vivarium.Proofs.Breeding.Soundness
import Vivarium.Proofs.Ecosystem.Passage
import Vivarium.Proofs.Ecosystem.Request

/-!
# What requests come to

Every request that succeeds is taken apart once: what it has looked up, what it has drawn,
and the ecosystem it leaves.  An invariant is then a case for each request, and does not
have to go through the chains of operations again.

The operations of a nursery are left as they are, since what is known about them is known
of these equations.

Main definitions:

* `Ecosystem.Effect`: a request was answered, and the ecosystem came to this.

Main statements:

* `Ecosystem.effect_of_perform`, `perform_of_effect`: a request succeeds if and only if it
  has its effect.
-/

namespace Vivarium

namespace Habitat

/-- The habitat after a cycle of one resident, which has drawn from the stream. -/
def afterCycle (h : Habitat) (id : OrganismId) (cycled : Resident) (outcome : CycleOutcome)
    (rng : Rng) : Habitat :=
  { h.put id cycled with
    rng := rng
    counters := h.counters.record (TickReport.empty.add outcome) }

/-- The habitat after a forced step of evolution of one resident. -/
def afterEvolution (h : Habitat) (id : OrganismId) (evolved : Resident) (changed : Bool)
    (rng : Rng) : Habitat :=
  { h.put id evolved with
    rng := rng
    counters :=
      { h.counters with evolutions := h.counters.evolutions + if changed then 1 else 0 } }

variable {h after : Habitat} {id : OrganismId} {now : Instant}

theorem of_execute (executed : h.execute id now = .ok after) :
    ∃ r cycled outcome rng, h.residents.find? id = some r ∧
      (r.cycle h.config now).run h.rng = ((cycled, outcome), rng) ∧
      after = h.afterCycle id cycled outcome rng := by
  unfold execute at executed
  obtain ⟨r, looked, executed⟩ := bind_eq_ok.mp executed
  cases executed
  exact ⟨r, _, _, _, resident_eq_ok.mp looked, rfl, rfl⟩

theorem of_evolve {changed : Bool} (forced : h.evolve id now = .ok (changed, after)) :
    ∃ r evolved outcome rng, h.residents.find? id = some r ∧
      (r.organism.evolve now).run h.rng = ((evolved, outcome), rng) ∧
      changed = outcome.isSome ∧
      after = h.afterEvolution id { r with organism := evolved } outcome.isSome rng := by
  unfold evolve at forced
  obtain ⟨r, looked, forced⟩ := bind_eq_ok.mp forced
  cases forced
  exact ⟨r, _, _, _, resident_eq_ok.mp looked, rfl, rfl, rfl⟩

theorem execute_of_find? {r cycled : Resident} {outcome : CycleOutcome} {rng : Rng}
    (found : h.residents.find? id = some r)
    (drawn : (r.cycle h.config now).run h.rng = ((cycled, outcome), rng)) :
    h.execute id now = .ok (h.afterCycle id cycled outcome rng) := by
  simp only [execute, resident_eq_ok.mpr found, bind, Except.bind]
  rw [drawn]
  rfl

theorem evolve_of_find? {r : Resident} {evolved : Organism} {outcome : Option Mutation.Outcome}
    {rng : Rng} (found : h.residents.find? id = some r)
    (drawn : (r.organism.evolve now).run h.rng = ((evolved, outcome), rng)) :
    h.evolve id now = .ok (outcome.isSome,
      h.afterEvolution id { r with organism := evolved } outcome.isSome rng) := by
  simp only [evolve, resident_eq_ok.mpr found, bind, Except.bind]
  rw [drawn]
  rfl

end Habitat

namespace Nursery

/-- The nursery without the population of a name. -/
def without (n : Nursery) (name : String) : Nursery :=
  { n with populations := n.populations.erase name }

end Nursery

namespace Ecosystem

/-- A registration that has passed its check. -/
def registered (e : Ecosystem) (o : Organism) : Organism × Ecosystem :=
  let enrolled := e.habitat.enroll e.supply o
  (enrolled.1, ⟨enrolled.2.1, e.nursery, enrolled.2.2⟩)

/-- A release of all organisms of a population, which is removed afterwards. -/
def disbanded (e : Ecosystem) (population : String) (source : Population) :
    List Organism × Ecosystem :=
  let released := e.released population source source.ids
  (released.1, { released.2 with nursery := released.2.nursery.without population })

/-- A request was answered, and the ecosystem came to this. -/
inductive Effect (e : Ecosystem) (now : Instant) :
    {α : Type} → Request α → α → Ecosystem → Prop where
  | register (o : Organism) (isOpen : e.habitat.isOpen = true) :
      Effect e now (.register o) (e.registered o).1 (e.registered o).2
  | execute {id : OrganismId} {r cycled : Resident} {outcome : CycleOutcome} {rng : Rng}
      (found : e.habitat.residents.find? id = some r)
      (drawn : (r.cycle e.habitat.config now).run e.habitat.rng = ((cycled, outcome), rng)) :
      Effect e now (.execute id) ()
        { e with habitat := e.habitat.afterCycle id cycled outcome rng }
  | evolve {id : OrganismId} {r : Resident} {evolved : Organism}
      {outcome : Option Mutation.Outcome} {rng : Rng}
      (found : e.habitat.residents.find? id = some r)
      (drawn : (r.organism.evolve now).run e.habitat.rng = ((evolved, outcome), rng)) :
      Effect e now (.evolve id) outcome.isSome
        { e with habitat :=
          e.habitat.afterEvolution id { r with organism := evolved } outcome.isSome rng }
  | modify {id : OrganismId} {r : Resident} (f : Organism → Organism)
      (found : e.habitat.residents.find? id = some r) :
      Effect e now (.modify id f) ()
        { e with habitat := e.habitat.put id { r with organism := f r.organism } }
  | remove {id : OrganismId} {r : Resident} (found : e.habitat.residents.find? id = some r) :
      Effect e now (.remove id) true
        { e with habitat := { e.habitat with residents := e.habitat.residents.erase id } }
  | removeNothing {id : OrganismId} (missing : e.habitat.residents.find? id = none) :
      Effect e now (.remove id) false e
  | tick : Effect e now .tick (e.habitat.tick now).1 { e with habitat := (e.habitat.tick now).2 }
  | shutdown : Effect e now .shutdown () { e with habitat := e.habitat.shutdown }
  | registerStrategy {s : Strategy} (faultless : s.fault? = none) :
      Effect e now (.registerStrategy s) ()
        { e with nursery :=
          { e.nursery with strategies := e.nursery.strategies.insert s.name s } }
  | registerLandscape {l : Landscape} (faultless : l.fault? = none) :
      Effect e now (.registerLandscape l) ()
        { e with nursery :=
          { e.nursery with landscapes := e.nursery.landscapes.insert l.name l } }
  | createPopulation {name : String} {seeds : List Organism} {strategyName : String}
      {metrics : Metrics} {nursery : Nursery} {supply : IdSupply}
      (created : e.nursery.createPopulation e.supply name seeds strategyName now =
        .ok (metrics, nursery, supply)) :
      Effect e now (.createPopulation name seeds strategyName) metrics
        ⟨e.habitat, nursery, supply⟩
  | removePopulation {name : String} {p : Population}
      (held : e.nursery.populations.find? name = some p) :
      Effect e now (.removePopulation name) p { e with nursery := e.nursery.without name }
  | performSelection {name strategyName : String} {report : SelectionReport}
      {nursery : Nursery} {supply : IdSupply}
      (performed : e.nursery.performSelection e.supply name strategyName now =
        .ok (report, nursery, supply)) :
      Effect e now (.performSelection name strategyName) report ⟨e.habitat, nursery, supply⟩
  | runCycle {reports : List SelectionReport} {nursery : Nursery} {supply : IdSupply}
      (performed : e.nursery.runCycle e.supply now = .ok (reports, nursery, supply)) :
      Effect e now .runCycle reports ⟨e.habitat, nursery, supply⟩
  | harvest {ids : List OrganismId} (population : String) {strategyName : String}
      {strategy : Strategy} (known : e.nursery.strategies.find? strategyName = some strategy)
      (registered : ∀ id ∈ ids, e.habitat.contains id = true) :
      Effect e now (.harvest ids population strategyName)
        (e.harvested ids population strategy now).1 (e.harvested ids population strategy now).2
  | release {population : String} {ids : List OrganismId} {source : Population}
      (known : e.nursery.populations.find? population = some source)
      (held : ∀ id ∈ ids, source.contains id = true) :
      Effect e now (.release population ids)
        (e.released population source ids).1 (e.released population source ids).2
  | releaseAll {population : String} {source : Population}
      (known : e.nursery.populations.find? population = some source) :
      Effect e now (.releaseAll population)
        (e.disbanded population source).1 (e.disbanded population source).2

variable {e later : Ecosystem} {now : Instant} {population : String}

/-- All of a population can be released, and it is removed afterwards. -/
theorem of_releaseAll {answer : List Organism}
    (performed : e.releaseAll population = .ok (answer, later)) :
    ∃ source, e.nursery.populations.find? population = some source ∧
      (answer, later) = e.disbanded population source := by
  obtain ⟨source, looked, performed⟩ := bind_eq_ok.mp performed
  obtain ⟨⟨organisms, between⟩, released, performed⟩ := bind_eq_ok.mp performed
  obtain ⟨⟨removed, nursery⟩, erased, performed⟩ := bind_eq_ok.mp performed
  obtain ⟨left, -, erased⟩ := bind_eq_ok.mp (mapError_eq_ok.mp erased)
  have known := Nursery.population_eq_ok.mp (mapError_eq_ok.mp looked)
  obtain ⟨again, sameKnown, -, same⟩ := release_eq_ok.mp released
  obtain rfl : source = again := Option.some.inj (known.symm.trans sameKnown)
  cases erased
  cases performed
  cases same
  exact ⟨source, known, rfl⟩

/-- Every request that succeeds has its effect. -/
theorem effect_of_perform {α : Type} {request : Request α} {answer : α}
    (performed : e.perform now request = .ok (answer, later)) :
    e.Effect now request answer later := by
  cases request with
  | register o =>
      obtain ⟨⟨registered, habitat, supply⟩, accepted, performed⟩ := bind_eq_ok.mp performed
      have enrolled := mapError_eq_ok.mp accepted
      unfold Habitat.register at enrolled
      split at enrolled
      · rename_i isOpen
        cases enrolled
        cases performed
        exact Effect.register o isOpen
      · cases enrolled
  | execute id =>
      obtain ⟨habitat, executed, performed⟩ := bind_eq_ok.mp performed
      obtain ⟨r, cycled, outcome, rng, found, drawn, rfl⟩ :=
        Habitat.of_execute (mapError_eq_ok.mp executed)
      cases performed
      exact Effect.execute found drawn
  | evolve id =>
      obtain ⟨⟨changed, habitat⟩, forced, performed⟩ := bind_eq_ok.mp performed
      obtain ⟨r, evolved, outcome, rng, found, drawn, rfl, rfl⟩ :=
        Habitat.of_evolve (mapError_eq_ok.mp forced)
      cases performed
      exact Effect.evolve found drawn
  | modify id f =>
      obtain ⟨habitat, modified, performed⟩ := bind_eq_ok.mp performed
      obtain ⟨r, looked, modified⟩ := bind_eq_ok.mp (mapError_eq_ok.mp modified)
      cases modified
      cases performed
      exact Effect.modify f (Habitat.resident_eq_ok.mp looked)
  | remove id =>
      simp only [perform, Habitat.take?, Habitat.find?] at performed
      cases found : e.habitat.residents.find? id with
      | none =>
          rw [found] at performed
          cases performed
          exact Effect.removeNothing found
      | some r =>
          rw [found] at performed
          cases performed
          exact Effect.remove found
  | tick =>
      cases performed
      exact Effect.tick
  | shutdown =>
      cases performed
      exact Effect.shutdown
  | registerStrategy s =>
      obtain ⟨nursery, registered, performed⟩ := bind_eq_ok.mp performed
      have written := mapError_eq_ok.mp registered
      unfold Nursery.registerStrategy at written
      split at written
      · cases written
      · rename_i faultless
        cases written
        cases performed
        exact Effect.registerStrategy faultless
  | registerLandscape l =>
      obtain ⟨nursery, registered, performed⟩ := bind_eq_ok.mp performed
      have written := mapError_eq_ok.mp registered
      unfold Nursery.registerLandscape at written
      split at written
      · cases written
      · rename_i faultless
        cases written
        cases performed
        exact Effect.registerLandscape faultless
  | createPopulation name seeds strategyName =>
      obtain ⟨⟨metrics, nursery, supply⟩, created, performed⟩ := bind_eq_ok.mp performed
      cases performed
      exact Effect.createPopulation (mapError_eq_ok.mp created)
  | removePopulation name =>
      obtain ⟨⟨removed, nursery⟩, erased, performed⟩ := bind_eq_ok.mp performed
      obtain ⟨p, held, erased⟩ := bind_eq_ok.mp (mapError_eq_ok.mp erased)
      cases erased
      cases performed
      exact Effect.removePopulation (Nursery.population_eq_ok.mp held)
  | performSelection name strategyName =>
      obtain ⟨⟨report, nursery, supply⟩, selected, performed⟩ := bind_eq_ok.mp performed
      cases performed
      exact Effect.performSelection (mapError_eq_ok.mp selected)
  | runCycle =>
      obtain ⟨⟨reports, nursery, supply⟩, selected, performed⟩ := bind_eq_ok.mp performed
      cases performed
      exact Effect.runCycle (mapError_eq_ok.mp selected)
  | harvest ids population strategyName =>
      obtain ⟨strategy, known, registered, same⟩ := harvest_eq_ok.mp performed
      cases same
      exact Effect.harvest population known registered
  | release population ids =>
      obtain ⟨source, known, held, same⟩ := release_eq_ok.mp performed
      cases same
      exact Effect.release known held
  | releaseAll population =>
      obtain ⟨source, known, same⟩ := of_releaseAll performed
      cases same
      exact Effect.releaseAll known

/-- An effect comes of its request. -/
theorem perform_of_effect {α : Type} {request : Request α} {answer : α}
    (effect : e.Effect now request answer later) :
    e.perform now request = .ok (answer, later) := by
  cases effect with
  | register o isOpen =>
      simp only [perform, Habitat.register, isOpen]
      rfl
  | execute found drawn =>
      simp only [perform, Habitat.execute_of_find? found drawn]
      rfl
  | evolve found drawn =>
      simp only [perform, Habitat.evolve_of_find? found drawn]
      rfl
  | modify f found =>
      simp only [perform, Habitat.modify, Habitat.resident, found]
      rfl
  | remove found =>
      simp only [perform, Habitat.take?, Habitat.find?, found]
      rfl
  | removeNothing missing =>
      simp only [perform, Habitat.take?, Habitat.find?, missing]
      rfl
  | tick => rfl
  | shutdown => rfl
  | registerStrategy faultless =>
      simp only [perform, Nursery.registerStrategy, faultless]
      rfl
  | registerLandscape faultless =>
      simp only [perform, Nursery.registerLandscape, faultless]
      rfl
  | createPopulation created =>
      simp only [perform, created]
      rfl
  | removePopulation held =>
      simp only [perform, Nursery.removePopulation, Nursery.population, held]
      rfl
  | performSelection performed =>
      simp only [perform, performed]
      rfl
  | runCycle performed =>
      simp only [perform, performed]
      rfl
  | harvest population known registered => exact harvest_eq_ok.mpr ⟨_, known, registered, rfl⟩
  | release known held => exact release_eq_ok.mpr ⟨_, known, held, rfl⟩
  | @releaseAll population source known =>
      have all : ∀ id ∈ source.ids, source.contains id = true :=
        fun id member => List.contains_iff_mem.mpr member
      have released : e.release population source.ids =
          .ok (e.released population source source.ids) :=
        release_eq_ok.mpr ⟨source, known, all, rfl⟩
      obtain ⟨left, still⟩ : ∃ left, (e.released population source
          source.ids).2.nursery.populations.find? population = some left :=
        ⟨_, Directory.find?_insert_self _ _ _⟩
      show e.releaseAll population = .ok (e.disbanded population source)
      unfold disbanded
      simp only [releaseAll, Nursery.population, known]
      show e.release population source.ids >>= _ = _
      rw [released]
      generalize e.released population source source.ids = result at still ⊢
      show ofNursery (result.2.nursery.removePopulation population) >>= _ = _
      simp only [Nursery.removePopulation, Nursery.population, still]
      rfl

end Ecosystem

end Vivarium
