import Vivarium.Proofs.Breeding.Soundness
import Vivarium.Proofs.Ecosystem.Passage
import Vivarium.Proofs.Ecosystem.Service

/-!
# Faults leave no trace

A program that serves a request in place comes to exactly what the operation says.
In particular it meets its faults before its first lasting write, so that a request
that fails leaves the whole ecosystem as it was: nothing is rolled back, as there is
nothing to roll back.

Each program is taken apart lookup by lookup.  A lookup that finds nothing ends the
program where it began.  After the last lookup there are only writes, and these are
compared with what the operation computes.  Three programs need more than that.
Selection on all populations could meet a fault after it has bred some of them, but
what it needs for the second population it needed for the first.  The two walks of a
transfer write the population over and over, and only the last time counts.

Main statements:

* `outcome_bind`: a chain of steps;
* `serve_runCycle`, `serve_harvest`, `serve_release`, `serve_releaseAll`: the programs
  made of parts;
* `serve_outcome`: every program;
* `fault_leaves_no_trace`: a program that fails.
-/

namespace Vivarium

namespace Service

variable {α β : Type} {e later : Ecosystem}

/-! ## Chains of steps -/

@[simp]
theorem outcome_pure (value : α) (e : Ecosystem) :
    outcome (pure value : Service α) e = (.ok value, e) := rfl

@[simp]
theorem outcome_get (e : Ecosystem) : outcome (get : Service Ecosystem) e = (.ok e, e) := rfl

@[simp]
theorem outcome_write (f : Ecosystem → Ecosystem) (e : Ecosystem) :
    outcome (write f) e = (.ok (), f e) := rfl

@[simp]
theorem outcome_bind (first : Service α) (next : α → Service β) (e : Ecosystem) :
    outcome (first >>= next) e =
      match outcome first e with
      | (.ok value, later) => outcome (next value) later
      | (.error fault, later) => (.error fault, later) := by
  show ExceptT.bindCont next (outcome first e).1 (outcome first e).2 = _
  cases outcome first e with
  | mk answer later => cases answer <;> rfl

@[simp]
theorem outcome_find_some (value : α) (fault : EcosystemFault) (e : Ecosystem) :
    outcome (find (some value) fault) e = (.ok value, e) := rfl

@[simp]
theorem outcome_find_none (fault : EcosystemFault) (e : Ecosystem) :
    outcome (find (none : Option α) fault) e = (.error fault, e) := rfl

@[simp]
theorem outcome_map (f : α → β) (program : Service α) (e : Ecosystem) :
    outcome (f <$> program) e =
      match outcome program e with
      | (.ok value, later) => (.ok (f value), later)
      | (.error fault, later) => (.error fault, later) := by
  rw [map_eq_pure_bind, outcome_bind]
  rfl

@[simp]
theorem outcome_attempt (program : Service α) (e : Ecosystem) :
    outcome (attempt program) e = (.ok (outcome program e).1, (outcome program e).2) := rfl

/-! ## Steps without faults -/

theorem outcome_idInPlace (held : Bool) (own : OrganismId) (e : Ecosystem) :
    outcome (idInPlace held own) e =
      if held then (.ok e.supply.next.1, { e with supply := e.supply.next.2 })
      else (.ok own, e) := by
  cases held <;> rfl

theorem outcome_receive (o : Organism) (e : Ecosystem) :
    outcome (receive o) e =
      let enrolled := e.habitat.enroll e.supply o
      (.ok enrolled.1, { e with habitat := enrolled.2.1, supply := enrolled.2.2 }) := by
  simp only [receive, outcome_bind, outcome_get, outcome_idInPlace, Habitat.enroll]
  cases e.habitat.contains o.id <;> rfl

theorem outcome_receiveIn (p : Population) (o : Organism) (e : Ecosystem) :
    outcome (receiveIn p o) e =
      let enrolled := p.enroll e.supply o
      (.ok (enrolled.1, enrolled.2.1), { e with supply := enrolled.2.2 }) := by
  simp only [receiveIn, outcome_bind, outcome_idInPlace, Population.enroll]
  cases p.contains o.id <;> rfl

theorem outcome_receiveSeeds (p : Population) (seeds : List Organism) (e : Ecosystem) :
    outcome (receiveSeeds p seeds) e =
      let enrolled := Nursery.enrollAll p e.supply seeds
      (.ok enrolled.2.1, { e with supply := enrolled.2.2 }) := by
  induction seeds generalizing p e with
  | nil => rfl
  | cons seed rest inductionHypothesis =>
      simp only [receiveSeeds, outcome_bind, outcome_receiveIn, inductionHypothesis]
      rfl

theorem outcome_receiveClones (now : Instant) (p : Population) (clones : List Clone)
    (e : Ecosystem) :
    outcome (receiveClones now p clones) e =
      let enrolled := enrollClones p now e.supply clones
      (.ok (enrolled.1, enrolled.2.1), { e with supply := enrolled.2.2 }) := by
  induction clones generalizing p e with
  | nil => rfl
  | cons clone rest inductionHypothesis =>
      simp only [receiveClones, freshId, outcome_bind, outcome_get, outcome_write, outcome_pure,
        outcome_receiveIn, inductionHypothesis]
      rfl

theorem outcome_fill (p : Population) (seeds : List Organism) (size : Nat) (now : Instant)
    (e : Ecosystem) :
    outcome (fill p seeds size now) e =
      let filled := e.nursery.fill p seeds size now e.supply
      (.ok filled.1, { e with nursery := filled.2.1, supply := filled.2.2 }) := by
  simp only [fill, drawInNursery, countInNursery, recordEvents, outcome_bind, outcome_get,
    outcome_write, outcome_pure, outcome_receiveClones]
  rfl

/-- What an operation says, for a program that works in place. -/
def inPlace (e : Ecosystem) :
    Except EcosystemFault (α × Ecosystem) → Except EcosystemFault α × Ecosystem
  | .ok (answer, later) => (.ok answer, later)
  | .error fault => (.error fault, e)

/-! ## Requests to the habitat -/

theorem serve_register (o : Organism) (now : Instant) (e : Ecosystem) :
    outcome (register o) e = inPlace e (e.perform now (.register o)) := by
  simp only [register, Ecosystem.perform, Habitat.register, outcome_bind, outcome_get]
  cases e.habitat.isOpen with
  | true => exact outcome_receive o e
  | false => rfl

theorem serve_execute (id : OrganismId) (now : Instant) (e : Ecosystem) :
    outcome (execute id now) e = inPlace e (e.perform now (.execute id)) := by
  simp only [execute, resident, Ecosystem.perform, Habitat.execute, Habitat.resident,
    outcome_bind, outcome_get]
  cases e.habitat.residents.find? id with
  | none => rfl
  | some r => rfl

theorem serve_evolve (id : OrganismId) (now : Instant) (e : Ecosystem) :
    outcome (evolve id now) e = inPlace e (e.perform now (.evolve id)) := by
  simp only [evolve, resident, Ecosystem.perform, Habitat.evolve, Habitat.resident,
    outcome_bind, outcome_get]
  cases e.habitat.residents.find? id with
  | none => rfl
  | some r => rfl

theorem serve_modify (id : OrganismId) (f : Organism → Organism) (now : Instant)
    (e : Ecosystem) :
    outcome (modifyOrganism id f) e = inPlace e (e.perform now (.modify id f)) := by
  simp only [modifyOrganism, resident, Ecosystem.perform, Habitat.modify, Habitat.resident,
    outcome_bind, outcome_get]
  cases e.habitat.residents.find? id with
  | none => rfl
  | some r => rfl

theorem serve_remove (id : OrganismId) (now : Instant) (e : Ecosystem) :
    outcome (Option.isSome <$> take id) e = inPlace e (e.perform now (.remove id)) := by
  simp only [take, outcome_map, outcome_bind, outcome_get, outcome_write, outcome_pure,
    Ecosystem.perform, Habitat.take?]
  cases found : e.habitat.find? id with
  | none =>
      rw [Directory.erase_of_find?_eq_none (Option.map_eq_none_iff.mp found)]
      rfl
  | some o => rfl

/-! ## Requests to the nursery -/

theorem serve_registerStrategy (s : Strategy) (now : Instant) (e : Ecosystem) :
    outcome (registerStrategy s) e = inPlace e (e.perform now (.registerStrategy s)) := by
  simp only [registerStrategy, Ecosystem.perform, Nursery.registerStrategy]
  cases s.fault? with
  | none => rfl
  | some fault => rfl

theorem serve_registerLandscape (l : Landscape) (now : Instant) (e : Ecosystem) :
    outcome (registerLandscape l) e = inPlace e (e.perform now (.registerLandscape l)) := by
  simp only [registerLandscape, Ecosystem.perform, Nursery.registerLandscape]
  cases l.fault? with
  | none => rfl
  | some fault => rfl

theorem serve_createPopulation (name : String) (seeds : List Organism) (strategyName : String)
    (now : Instant) (e : Ecosystem) :
    outcome (createPopulation name seeds strategyName now) e =
      inPlace e (e.perform now (.createPopulation name seeds strategyName)) := by
  simp only [createPopulation, strategy, Ecosystem.perform, Nursery.createPopulation_eq,
    outcome_bind, outcome_get]
  cases e.nursery.strategies.find? strategyName with
  | none => rfl
  | some strategy =>
      simp only [outcome_find_some]
      cases seeds.isEmpty with
      | true => rfl
      | false =>
          simp only [Bool.false_eq_true, if_false, outcome_bind, outcome_get]
          cases e.nursery.populations.contains name with
          | true => rfl
          | false =>
              simp only [Bool.false_eq_true, if_false, outcome_bind, outcome_receiveSeeds,
                outcome_fill, putPopulation, outcome_write]
              rfl

theorem serve_removePopulation (name : String) (now : Instant) (e : Ecosystem) :
    outcome (removePopulation name) e = inPlace e (e.perform now (.removePopulation name)) := by
  simp only [removePopulation, Ecosystem.perform, Nursery.removePopulation, Nursery.population,
    outcome_bind, outcome_get, outcome_write]
  cases missing : e.nursery.populations.find? name with
  | none =>
      rw [Directory.erase_of_find?_eq_none missing]
      rfl
  | some p => rfl

theorem serve_performSelection (name strategyName : String) (now : Instant) (e : Ecosystem) :
    outcome (performSelection name strategyName now) e =
      inPlace e (e.perform now (.performSelection name strategyName)) := by
  simp only [performSelection, strategy, landscape, population, Ecosystem.perform,
    Nursery.performSelection, Nursery.strategy, Nursery.landscape, Nursery.population,
    outcome_bind, outcome_get]
  cases e.nursery.strategies.find? strategyName with
  | none => rfl
  | some strategy =>
      simp only [outcome_find_some]
      cases e.nursery.landscapes.find? e.nursery.config.defaultLandscape with
      | none => rfl
      | some landscape =>
          simp only [outcome_find_some]
          cases e.nursery.populations.find? name with
          | none => rfl
          | some p => rfl

/-- While all populations are there and all is known that selection needs, no fault is
met, and no population is left out. -/
theorem outcome_selectEach {strategyName : String} (now : Instant) {strategy : Strategy}
    {landscape : Landscape} {names : List String}
    (known : e.nursery.strategies.find? strategyName = some strategy)
    (placed : e.nursery.landscapes.find? e.nursery.config.defaultLandscape = some landscape)
    (held : ∀ name ∈ names, e.nursery.populations.contains name = true) :
    ∃ reports nursery supply,
      e.nursery.selectAll e.supply strategyName now names = .ok (reports, nursery, supply) ∧
        outcome (selectEach strategyName now names) e =
          (.ok reports, ⟨e.habitat, nursery, supply⟩) := by
  induction names generalizing e with
  | nil => exact ⟨[], e.nursery, e.supply, rfl, rfl⟩
  | cons name rest inductionHypothesis =>
      obtain ⟨p, found⟩ := Directory.contains_iff.mp (held name List.mem_cons_self)
      obtain ⟨report, after, middle, performed⟩ : ∃ report after middle,
          e.nursery.performSelection e.supply name strategyName now =
            .ok (report, after, middle) :=
        ⟨_, _, _, performSelection_eq e.supply now known placed found⟩
      -- what the rest of the walk needs is still there behind the first selection
      obtain ⟨strategies, landscapes, config, populations⟩ :=
        Nursery.kept_of_performSelection performed
      have served := serve_performSelection name strategyName now e
      simp only [Ecosystem.perform, performed] at served
      obtain ⟨reports, nursery, supply, selectedAll, servedAll⟩ :=
        @inductionHypothesis ⟨e.habitat, after, middle⟩ (strategies ▸ known)
          (config ▸ landscapes ▸ placed)
          (fun other member => populations other (held other (List.mem_cons_of_mem _ member)))
      refine ⟨report :: reports, nursery, supply, ?_, ?_⟩
      · rw [Nursery.selectAll, performed]
        show (after.selectAll middle strategyName now rest >>= _) = _
        rw [selectedAll]
        rfl
      · rw [selectEach, outcome_bind, outcome_attempt, served]
        show outcome (selectEach strategyName now rest >>= _) ⟨e.habitat, after, middle⟩ = _
        rw [outcome_bind, servedAll]
        rfl

theorem serve_runCycle (now : Instant) (e : Ecosystem) :
    outcome (runCycle now) e = inPlace e (e.perform now .runCycle) := by
  have held : ∀ name ∈ e.nursery.populationNames,
      e.nursery.populations.contains name = true :=
    fun name listed => Directory.contains_of_mem_keys listed
  cases known : e.nursery.strategies.find? e.nursery.config.defaultStrategy with
  | none =>
      simp only [runCycle, strategy, Ecosystem.perform, Nursery.runCycle, Nursery.strategy,
        outcome_bind, outcome_get, known, outcome_find_none]
      rfl
  | some strategy =>
      simp only [runCycle, Service.strategy, Ecosystem.perform, Nursery.runCycle,
        Nursery.strategy, outcome_bind, outcome_get, known, outcome_find_some]
      cases placed : e.nursery.landscapes.find? e.nursery.config.defaultLandscape with
      | some landscape =>
          obtain ⟨reports, nursery, supply, selectedAll, servedAll⟩ :=
            outcome_selectEach now known placed held
          rw [servedAll]
          show _ = inPlace e (Ecosystem.ofNursery (e.nursery.selectAll _ _ _ _ >>= _) >>= _)
          rw [selectedAll]
          rfl
      | none =>
          -- the first population meets the fault, before anything is written
          cases e.nursery.populationNames with
          | nil => rfl
          | cons name rest =>
              have performed : e.nursery.performSelection e.supply name
                  e.nursery.config.defaultStrategy now =
                    .error (.landscapeNotFound e.nursery.config.defaultLandscape) := by
                simp only [Nursery.performSelection, Nursery.strategy, Nursery.landscape, known,
                  placed]
                rfl
              have served := serve_performSelection name e.nursery.config.defaultStrategy now e
              simp only [Ecosystem.perform, performed] at served
              rw [selectEach, outcome_bind, outcome_attempt, served]
              show _ = inPlace e (Ecosystem.ofNursery
                ((e.nursery.performSelection _ _ _ _ >>= _) >>= _) >>= _)
              rw [performed]
              rfl

/-! ## Transfers -/

theorem put_put (n : Nursery) (name : String) (first second : Population) :
    (n.put name first).put name second = n.put name second := by
  simp only [Nursery.put, Directory.insert_insert String.lt_irrefl]

theorem put_of_find?_eq_some {n : Nursery} {name : String} {p : Population}
    (found : n.populations.find? name = some p) : n.put name p = n := by
  simp only [Nursery.put, Directory.insert_of_find?_eq_some String.lt_irrefl found]

/-- Moving one by one comes to taking all and enrolling all, as the population is
written over each time. -/
theorem outcome_moveInto {name : String} {target : Population} {ids : List OrganismId}
    (written : e.nursery.populations.find? name = some target) :
    outcome (moveInto name target ids) e =
      let taken := Ecosystem.takeAll e.habitat ids
      let enrolled := Nursery.enrollAll target e.supply taken.1
      (.ok (enrolled.1, taken.1, enrolled.2.1),
        ⟨taken.2, e.nursery.put name enrolled.2.1, enrolled.2.2⟩) := by
  induction ids generalizing e target with
  | nil =>
      simp only [moveInto, Ecosystem.takeAll, Nursery.enrollAll, put_of_find?_eq_some written]
      rfl
  | cons id rest inductionHypothesis =>
      simp only [moveInto, take, outcome_bind, outcome_get, outcome_write, outcome_pure,
        Ecosystem.takeAll, Habitat.take?]
      cases found : e.habitat.find? id with
      | none =>
          -- erasing an id that is not there changes nothing
          rw [Directory.erase_of_find?_eq_none (Option.map_eq_none_iff.mp found)]
          exact inductionHypothesis written
      | some o =>
          simp only [outcome_bind, outcome_receiveIn, putPopulation, outcome_write]
          rw [inductionHypothesis (Directory.find?_insert_self _ _ _)]
          simp only [put_put]
          rfl

/-- Filling does not look at the populations that are written. -/
theorem fill_put (n : Nursery) (name : String) (written p : Population) (seeds : List Organism)
    (size : Nat) (now : Instant) (supply : IdSupply) :
    (n.put name written).fill p seeds size now supply =
      let filled := n.fill p seeds size now supply
      (filled.1, filled.2.1.put name written, filled.2.2) := rfl

theorem serve_harvest (ids : List OrganismId) (name strategyName : String) (now : Instant)
    (e : Ecosystem) :
    outcome (harvest ids name strategyName now) e =
      inPlace e (e.perform now (.harvest ids name strategyName)) := by
  simp only [harvest, strategy, Ecosystem.perform, Ecosystem.harvest_eq, outcome_bind,
    outcome_get]
  cases e.nursery.strategies.find? strategyName with
  | none => rfl
  | some strategy =>
      simp only [outcome_find_some]
      cases ids.find? fun id => !e.habitat.contains id with
      | some missing => rfl
      | none =>
          cases existing : e.nursery.populations.find? name with
          | none =>
              simp only [Option.isNone_none, if_true, putPopulation, outcome_bind, outcome_write]
              rw [outcome_moveInto (Directory.find?_insert_self _ _ _)]
              simp only [outcome_fill, put_put, fill_put, outcome_pure, inPlace,
                Ecosystem.harvested, Ecosystem.target, existing]
          | some p =>
              simp only [Option.isNone_some, Bool.false_eq_true, if_false, outcome_bind]
              rw [show Option.getD (some p) _ = p from rfl, outcome_moveInto existing]
              simp only [outcome_fill, putPopulation, outcome_write, put_put, fill_put,
                outcome_pure, inPlace, Ecosystem.harvested, Ecosystem.target, existing]
              rfl

/-- Moving one by one comes to the walk of a release, as the population is written over
each time. -/
theorem outcome_moveOutOf {name : String} {source : Population} {ids : List OrganismId}
    (written : e.nursery.populations.find? name = some source) :
    outcome (moveOutOf name source ids) e =
      let walked := Ecosystem.releaseEach e.habitat source e.supply ids
      (.ok (walked.1, walked.2.2.1),
        ⟨walked.2.1, e.nursery.put name walked.2.2.1, walked.2.2.2⟩) := by
  induction ids generalizing e source with
  | nil =>
      simp only [moveOutOf, Ecosystem.releaseEach, put_of_find?_eq_some written]
      rfl
  | cons id rest inductionHypothesis =>
      simp only [moveOutOf, Ecosystem.releaseEach]
      cases source.take? id with
      | none => exact inductionHypothesis written
      | some taken =>
          obtain ⟨o, left⟩ := taken
          simp only [putPopulation, outcome_bind, outcome_write, outcome_receive]
          rw [inductionHypothesis (Directory.find?_insert_self _ _ _)]
          simp only [put_put]
          rfl

theorem serve_release (name : String) (ids : List OrganismId) (now : Instant) (e : Ecosystem) :
    outcome (release name ids) e = inPlace e (e.perform now (.release name ids)) := by
  simp only [release, population, Ecosystem.perform, Ecosystem.release_eq, outcome_bind,
    outcome_get]
  cases held : e.nursery.populations.find? name with
  | none => rfl
  | some source =>
      simp only [outcome_find_some]
      cases ids.find? fun id => !source.contains id with
      | some missing => rfl
      | none =>
          simp only [outcome_bind, outcome_moveOutOf held, outcome_get, putPopulation,
            outcome_write, put_put]
          rfl

/-- All ids of a population are in it, so that its release cannot fail; and it is still
there to be removed afterwards. -/
theorem serve_releaseAll (name : String) (now : Instant) (e : Ecosystem) :
    outcome (releaseAll name) e = inPlace e (e.perform now (.releaseAll name)) := by
  cases held : e.nursery.populations.find? name with
  | none =>
      simp only [releaseAll, population, Ecosystem.perform, Ecosystem.releaseAll,
        Nursery.population, outcome_bind, outcome_get, held]
      rfl
  | some source =>
      have all : ∀ id ∈ source.ids, source.contains id = true :=
        fun id member => List.contains_iff_mem.mpr member
      have released := Ecosystem.release_eq_ok.mpr ⟨source, held, all, rfl⟩
      have servedRelease := serve_release name source.ids now e
      simp only [Ecosystem.perform, released] at servedRelease
      have left : ∃ p, (e.released name source source.ids).2.nursery.populations.find? name =
          some p := ⟨_, Directory.find?_insert_self _ _ _⟩
      simp only [releaseAll, population, outcome_bind, outcome_get, held, outcome_find_some,
        servedRelease]
      -- from here on it only matters that the release came to something
      generalize e.released name source source.ids = result at released left ⊢
      obtain ⟨organisms, between⟩ := result
      obtain ⟨p, left⟩ := left
      have removed : between.nursery.removePopulation name =
          .ok (p, { between.nursery with
            populations := between.nursery.populations.erase name }) := by
        simp only [Nursery.removePopulation, Nursery.population, left]
        rfl
      have servedRemoval := serve_removePopulation name now between
      simp only [Ecosystem.perform, removed] at servedRemoval
      simp only [inPlace, servedRemoval, Ecosystem.perform, Ecosystem.releaseAll,
        Nursery.population, held]
      show _ = inPlace e (e.release name source.ids >>= _)
      rw [released]
      show _ = inPlace e (Ecosystem.ofNursery (between.nursery.removePopulation name) >>= _)
      rw [removed]
      rfl

/-- A program comes to what the operation says: on success to the answer and the
ecosystem after it, on a fault to that fault and the ecosystem as it was. -/
theorem serve_outcome (now : Instant) (request : Request α) (e : Ecosystem) :
    outcome (serve now request) e = inPlace e (e.perform now request) := by
  cases request with
  | register o => exact serve_register o now e
  | execute id => exact serve_execute id now e
  | evolve id => exact serve_evolve id now e
  | modify id f => exact serve_modify id f now e
  | remove id => exact serve_remove id now e
  | tick => rfl
  | shutdown => rfl
  | registerStrategy s => exact serve_registerStrategy s now e
  | registerLandscape l => exact serve_registerLandscape l now e
  | createPopulation name seeds strategyName =>
      exact serve_createPopulation name seeds strategyName now e
  | removePopulation name => exact serve_removePopulation name now e
  | performSelection name strategyName => exact serve_performSelection name strategyName now e
  | runCycle => exact serve_runCycle now e
  | harvest ids population strategyName => exact serve_harvest ids population strategyName now e
  | release population ids => exact serve_release population ids now e
  | releaseAll population => exact serve_releaseAll population now e

/-- A program that fails leaves the ecosystem as it was: the organisms and their marks,
both streams, both counters, the populations, the history, what is registered, and the
supply of ids. -/
theorem fault_leaves_no_trace {now : Instant} {request : Request α} {fault : EcosystemFault}
    (failed : outcome (serve now request) e = (.error fault, later)) :
    later = e ∧ e.perform now request = .error fault := by
  rw [serve_outcome] at failed
  cases performed : e.perform now request with
  | error met =>
      rw [performed] at failed
      cases failed
      exact ⟨rfl, rfl⟩
  | ok result =>
      rw [performed] at failed
      cases failed

/-- The newborn beetle of some number. -/
def beetle (number : Nat) : Organism :=
  { Organism.newborn "beetle" ⟨0, 0⟩ with id := ⟨BitVec.ofNat 128 number⟩ }

/-- Three beetles are registered, and the third of them moves to a new population. -/
def grassland : Ecosystem :=
  let settle : Service Unit := do
    let _ ← serve ⟨0, 0⟩ (.register (beetle 1))
    let _ ← serve ⟨0, 0⟩ (.register (beetle 2))
    let _ ← serve ⟨0, 0⟩ (.register (beetle 3))
    let _ ← serve ⟨0, 0⟩ (.harvest [] "grass" "balanced")
    let _ ← serve ⟨0, 0⟩ (.harvest [(beetle 3).id] "grass" "balanced")
  (outcome settle (Ecosystem.founded Config.standard 1 2 IdSupply.numbered)).2

/-- A harvest of two beetles that are there and one that is not, into a population with one. -/
theorem fault_leaves_no_trace_harvest :
    let request : Request (List OrganismId) :=
      .harvest [(beetle 1).id, (beetle 5).id, (beetle 2).id] "grass" "balanced"
    grassland.habitat.organisms.map (·.id) = [(beetle 1).id, (beetle 2).id] ∧
      (grassland.nursery.populations.find? "grass").map (·.ids) = some [(beetle 3).id] ∧
      ∃ later,
        outcome (serve ⟨0, 0⟩ request) grassland =
            (.error (.habitat (.notFound (beetle 5).id)), later) ∧
          later = grassland ∧
          grassland.perform ⟨0, 0⟩ request = .error (.habitat (.notFound (beetle 5).id)) :=
  ⟨by decide +kernel, by decide +kernel, _, rfl, fault_leaves_no_trace rfl⟩

end Service

end Vivarium
