import Vivarium.Proofs.Breeding.NurseryRenaming
import Vivarium.Proofs.Ecosystem.Course
import Vivarium.Proofs.Ecosystem.Soundness
import Vivarium.Proofs.Habitat.Renaming

/-!
# Ecosystems under other ids

What is asked of an ecosystem can be asked of the renamed one about the renamed organisms.  The
answer is the renamed answer, with one exception: a tick hands the random stream on in the order of
the ids, and is the same only if the residents come in the same order under their new ids.

Main definitions:

* `Request.renamed`, `Request.answerRenamed`: a request and its answer under the new ids;
* `Ecosystem.renamed`: the ecosystem under the new ids, with a supply of its own;
* `Call`, `Ecosystem.run`: a script of requests, and what comes of it;
* `Ecosystem.KeepsOrder`: the renaming keeps the residents in order wherever a script ticks.

Main statements:

* `Ecosystem.Course.run`: a script that is run is a course;
* `Ecosystem.perform_renamed`: a request, whether it succeeds or fails;
* `Ecosystem.run_renamed`: a script of requests, served in place.
-/

namespace Vivarium

variable {π : Renaming} {limit : Nat} {supply other : IdSupply} {now : Instant}

open IdSupply (Mirrors)

/-- The fault with new ids. -/
def EcosystemFault.renamed (π : Renaming) : EcosystemFault → EcosystemFault
  | .habitat fault => .habitat (fault.renamed π)
  | .nursery fault => .nursery (fault.renamed π)

namespace Request

variable {α : Type}

/-- The same request about the renamed organisms.  A function from outside is applied to the
organism as it was, and what it makes of it is renamed. -/
def renamed (π : Renaming) : Request α → Request α
  | register o => register (o.renamed π)
  | execute id => execute (π id)
  | evolve id => evolve (π id)
  | modify id f => modify (π id) fun o => (f (o.renamed π.symm)).renamed π
  | remove id => remove (π id)
  | createPopulation name seeds strategyName =>
      createPopulation name (seeds.map (Organism.renamed π)) strategyName
  | harvest ids population strategyName => harvest (ids.map π) population strategyName
  | release population ids => release population (ids.map π)
  | request => request

/-- The answer to a request with new ids. -/
def answerRenamed (π : Renaming) : Request α → α → α
  | register _, o => o.renamed π
  | removePopulation _, p => p.renamed π
  | harvest _ _ _, ids => ids.map π
  | release _ _, organisms => organisms.map (Organism.renamed π)
  | releaseAll _, organisms => organisms.map (Organism.renamed π)
  | _, answer => answer

/-- The renaming does not change the order in which the request goes through the residents.
Only a tick goes through them. -/
def KeepsOrder (π : Renaming) (h : Habitat) : Request α → Prop
  | tick => h.KeepsOrder π
  | _ => True

end Request

/-- A request at some time, still to be answered. -/
structure Call where
  Answer : Type
  now : Instant
  request : Request Answer

/-- The call with its request under the new ids. -/
def Call.renamed (π : Renaming) (call : Call) : Call :=
  { call with request := call.request.renamed π }

/-- The request and the answer under the new ids. -/
def Exchange.renamed (π : Renaming) (x : Exchange) : Exchange where
  Answer := x.Answer
  now := x.now
  request := x.request.renamed π
  answer := mapOutcome (EcosystemFault.renamed π) (x.request.answerRenamed π) x.answer

namespace Ecosystem

/-- The ecosystem under the new ids, which draws fresh ones from another supply. -/
def renamed (π : Renaming) (other : IdSupply) (e : Ecosystem) : Ecosystem :=
  ⟨e.habitat.renamed π, e.nursery.renamed π, other⟩

variable {e later : Ecosystem} {population : String}

/-! ## Transfers -/

theorem takeAll_renamed (h : Habitat) (ids : List OrganismId) :
    takeAll (h.renamed π) (ids.map π) =
      ((takeAll h ids).1.map (Organism.renamed π), (takeAll h ids).2.renamed π) := by
  induction ids generalizing h with
  | nil => rfl
  | cons id rest inductionHypothesis =>
      simp only [List.map_cons, takeAll, Habitat.take?_renamed]
      cases h.take? id with
      | none => exact inductionHypothesis h
      | some taken =>
          simp only [Option.map_some, inductionHypothesis taken.2]
          rfl

theorem releaseEach_renamed (mirrors : Mirrors π limit supply other) (h : Habitat)
    (p : Population) (ids : List OrganismId)
    (room : (releaseEach h p supply ids).2.2.2.issued ≤ limit) :
    releaseEach (h.renamed π) (p.renamed π) other (ids.map π) =
      let walked := releaseEach h p supply ids
      (walked.1.map (Organism.renamed π), walked.2.1.renamed π, walked.2.2.1.renamed π,
        other.follow walked.2.2.2) := by
  induction ids generalizing h p supply other with
  | nil => exact congrArg (fun s => ([], h.renamed π, p.renamed π, s)) mirrors.follow_self.symm
  | cons id rest inductionHypothesis =>
      simp only [List.map_cons, releaseEach, Population.take?_renamed] at room ⊢
      cases taken : p.take? id with
      | none =>
          rw [taken] at room
          exact inductionHypothesis mirrors h p room
      | some pair =>
          obtain ⟨o, left⟩ := pair
          rw [taken] at room
          dsimp only at room
          let arrived := h.enroll supply o
          have advances : supply.Advances arrived.2.2 := h.enroll_advances supply o
          have others := releaseEach_advances arrived.2.1 left arrived.2.2 rest
          have enrolled := h.enroll_renamed mirrors o (Nat.le_trans others.issued room)
          have walked := inductionHypothesis (mirrors.follow advances) arrived.2.1 left room
          simp only [Option.map_some, enrolled]
          rw [walked]
          rfl

theorem target_renamed (e : Ecosystem) (population : String) (strategy : Strategy)
    (now : Instant) :
    (e.renamed π other).target population strategy now =
      (e.target population strategy now).renamed π := by
  show ((e.nursery.renamed π).populations.find? population).getD _ = _
  rw [Nursery.find?_renamed, target]
  cases e.nursery.populations.find? population <;> rfl

theorem harvested_renamed (mirrors : Mirrors π limit e.supply other) (ids : List OrganismId)
    (population : String) (strategy : Strategy)
    (room : (e.harvested ids population strategy now).2.supply.issued ≤ limit) :
    (e.renamed π other).harvested (ids.map π) population strategy now =
      let result := e.harvested ids population strategy now
      (result.1.map π, result.2.renamed π (other.follow result.2.supply)) := by
  let taken := takeAll e.habitat ids
  let enrolled := Nursery.enrollAll (e.target population strategy now) e.supply taken.1
  have enrolls : e.supply.Advances enrolled.2.2 := enrollAll_advances _ e.supply taken.1
  have fills : enrolled.2.2.Advances (e.harvested ids population strategy now).2.supply :=
    fill_advances e.nursery enrolled.2.1 taken.1 _ now enrolled.2.2
  have arrived : Nursery.enrollAll ((e.target population strategy now).renamed π) other
      (taken.1.map (Organism.renamed π)) = _ :=
    enrollAll_renamed (p := e.target population strategy now) mirrors
      (Nat.le_trans fills.issued room)
  have filled := Nursery.fill_renamed (mirrors.follow enrolls) e.nursery room
  have known : ((e.renamed π other).nursery.populations.find? population).isSome =
      (e.nursery.populations.find? population).isSome := by
    show ((e.nursery.renamed π).populations.find? population).isSome = _
    rw [Nursery.find?_renamed, Option.isSome_map]
  unfold harvested
  rw [target_renamed, known]
  simp only [renamed, takeAll_renamed]
  rw [arrived]
  dsimp only
  rw [filled]
  simp only [Nursery.renamed_put]
  rfl

theorem released_renamed (mirrors : Mirrors π limit e.supply other) (source : Population)
    (ids : List OrganismId)
    (room : (e.released population source ids).2.supply.issued ≤ limit) :
    (e.renamed π other).released population (source.renamed π) (ids.map π) =
      let result := e.released population source ids
      (result.1.map (Organism.renamed π), result.2.renamed π (other.follow result.2.supply)) := by
  have walked := releaseEach_renamed mirrors e.habitat source ids room
  unfold released
  simp only [renamed]
  rw [walked]
  simp only [Nursery.renamed_put, Population.renamed_remeasure]
  rfl

theorem disbanded_renamed (mirrors : Mirrors π limit e.supply other) (source : Population)
    (room : (e.disbanded population source).2.supply.issued ≤ limit) :
    (e.renamed π other).disbanded population (source.renamed π) =
      let result := e.disbanded population source
      (result.1.map (Organism.renamed π), result.2.renamed π (other.follow result.2.supply)) := by
  have erased : ∀ n : Nursery, (n.renamed π).without population =
      (n.without population).renamed π := by
    intro n
    simp only [Nursery.without, Nursery.renamed, Directory.mapValues_erase]
  unfold disbanded
  rw [Population.ids_renamed, released_renamed mirrors source source.ids room]
  simp only [renamed, erased]

/-! ## Requests -/

theorem find?_missing_renamed {held heldToo : OrganismId → Bool} (ids : List OrganismId)
    (same : ∀ id, heldToo (π id) = held id) :
    ((ids.map π).find? fun id => !heldToo id) = (ids.find? fun id => !held id).map π := by
  rw [List.find?_map]
  refine congrArg (fun f => (ids.find? f).map π) (funext fun id => ?_)
  exact congrArg not (same id)

/-- What a request comes to under the new ids. -/
def resultRenamed {α : Type} (π : Renaming) (other : IdSupply) (request : Request α)
    (result : α × Ecosystem) : α × Ecosystem :=
  (request.answerRenamed π result.1, result.2.renamed π (other.follow result.2.supply))

section

variable {α β : Type} {onValue : α → α} {onResult : β → β}
  {next nextToo : α → Except EcosystemFault β}

/-- What is done with the outcome of an operation on the habitat. -/
theorem bind_ofHabitat_renamed {op opToo : Except HabitatFault α}
    (renamed : opToo = mapOutcome (HabitatFault.renamed π) onValue op)
    (linked : ∀ value, nextToo (onValue value) =
      mapOutcome (EcosystemFault.renamed π) onResult (next value)) :
    ofHabitat opToo >>= nextToo =
      mapOutcome (EcosystemFault.renamed π) onResult (ofHabitat op >>= next) := by
  have same : ofHabitat opToo = mapOutcome (EcosystemFault.renamed π) onValue (ofHabitat op) := by
    rw [renamed]
    cases op <;> rfl
  rw [same]
  exact bind_mapOutcome fun value _ => linked value

/-- What is done with the outcome of an operation on the nursery. -/
theorem bind_ofNursery_renamed {op opToo : Except NurseryFault α}
    (renamed : opToo = mapOutcome (NurseryFault.renamed π) onValue op)
    (linked : ∀ value, nextToo (onValue value) =
      mapOutcome (EcosystemFault.renamed π) onResult (next value)) :
    ofNursery opToo >>= nextToo =
      mapOutcome (EcosystemFault.renamed π) onResult (ofNursery op >>= next) := by
  have same : ofNursery opToo = mapOutcome (EcosystemFault.renamed π) onValue (ofNursery op) := by
    rw [renamed]
    cases op <;> rfl
  rw [same]
  exact bind_mapOutcome fun value _ => linked value

end

theorem harvest_renamed (mirrors : Mirrors π limit e.supply other) (ids : List OrganismId)
    (population strategyName : String)
    (room : ∀ result, e.harvest ids population strategyName now = .ok result →
      result.2.supply.issued ≤ limit) :
    (e.renamed π other).harvest (ids.map π) population strategyName now =
      mapOutcome (EcosystemFault.renamed π)
        (fun result => (result.1.map π, result.2.renamed π (other.follow result.2.supply)))
        (e.harvest ids population strategyName now) := by
  have strategies : (e.renamed π other).nursery.strategies = e.nursery.strategies := rfl
  have missed : ((ids.map π).find? fun id => !(e.renamed π other).habitat.contains id) = _ :=
    find?_missing_renamed ids fun id => e.habitat.contains_renamed (π := π) id
  rw [harvest_eq] at room
  rw [harvest_eq, harvest_eq, strategies]
  cases known : e.nursery.strategies.find? strategyName with
  | none => rfl
  | some strategy =>
      rw [known] at room
      dsimp only at room ⊢
      rw [missed]
      cases missing : ids.find? fun id => !e.habitat.contains id with
      | some id => rfl
      | none =>
          rw [missing] at room
          exact congrArg Except.ok (harvested_renamed mirrors ids population strategy (room _ rfl))

theorem release_renamed (mirrors : Mirrors π limit e.supply other) (population : String)
    (ids : List OrganismId)
    (room : ∀ result, e.release population ids = .ok result → result.2.supply.issued ≤ limit) :
    (e.renamed π other).release population (ids.map π) =
      mapOutcome (EcosystemFault.renamed π)
        (fun result =>
          (result.1.map (Organism.renamed π), result.2.renamed π (other.follow result.2.supply)))
        (e.release population ids) := by
  have populations : (e.renamed π other).nursery.populations.find? population = _ :=
    e.nursery.find?_renamed population
  rw [release_eq] at room
  rw [release_eq, release_eq, populations]
  cases known : e.nursery.populations.find? population with
  | none => rfl
  | some source =>
      rw [known] at room
      dsimp only [Option.map_some] at room ⊢
      rw [find?_missing_renamed ids fun id => source.contains_renamed (π := π) id]
      cases missing : ids.find? fun id => !source.contains id with
      | some id => rfl
      | none =>
          rw [missing] at room
          exact congrArg Except.ok (released_renamed mirrors source ids (room _ rfl))

theorem releaseAll_renamed (mirrors : Mirrors π limit e.supply other) (population : String)
    (room : ∀ result, e.releaseAll population = .ok result → result.2.supply.issued ≤ limit) :
    (e.renamed π other).releaseAll population =
      mapOutcome (EcosystemFault.renamed π)
        (fun result =>
          (result.1.map (Organism.renamed π), result.2.renamed π (other.follow result.2.supply)))
        (e.releaseAll population) := by
  have populations : (e.renamed π other).nursery.populations.find? population = _ :=
    e.nursery.find?_renamed population
  cases known : e.nursery.populations.find? population with
  | none =>
      rw [known] at populations
      simp only [releaseAll, Nursery.population, known, populations]
      rfl
  | some source =>
      rw [known] at populations
      have all : ∀ {e : Ecosystem} {source : Population},
          e.nursery.populations.find? population = some source →
            e.releaseAll population = .ok (e.disbanded population source) := by
        intro e source known
        have effect : e.Effect ⟨0, 0⟩ (.releaseAll population) _ _ := .releaseAll known
        exact perform_of_effect effect
      have released := all known
      have releasedToo := all populations
      rw [released, releasedToo, disbanded_renamed mirrors source (room _ released)]
      rfl

/-- **A request under other ids.**  It succeeds or fails as before, and what it answers and comes
to is only renamed. -/
theorem perform_renamed {α : Type} (mirrors : Mirrors π limit e.supply other)
    (request : Request α) (now : Instant)
    (room : ∀ result, e.perform now request = .ok result → result.2.supply.issued ≤ limit)
    (ordered : request.KeepsOrder π e.habitat) :
    (e.renamed π other).perform now (request.renamed π) =
      mapOutcome (EcosystemFault.renamed π) (resultRenamed π other request)
        (e.perform now request) := by
  -- where no id is drawn the supply stays as it is
  have still : ∀ h n, (⟨h.renamed π, n.renamed π, other⟩ : Ecosystem) =
      renamed π (other.follow e.supply) ⟨h, n, e.supply⟩ := by
    intro h n
    rw [mirrors.follow_self]
    rfl
  cases request with
  | register o =>
      have registered := e.habitat.register_renamed mirrors o fun result accepted =>
        room (result.1, ⟨result.2.1, e.nursery, result.2.2⟩)
          (bind_eq_ok.mpr ⟨result, mapError_eq_ok.mpr accepted, rfl⟩)
      exact bind_ofHabitat_renamed registered fun result => rfl
  | execute id =>
      exact bind_ofHabitat_renamed (e.habitat.execute_renamed id now) fun habitat =>
        congrArg (fun after => Except.ok ((), after)) (still habitat e.nursery)
  | evolve id =>
      exact bind_ofHabitat_renamed (e.habitat.evolve_renamed id now) fun result =>
        congrArg (fun after => Except.ok (result.1, after)) (still result.2 e.nursery)
  | modify id f =>
      exact bind_ofHabitat_renamed (e.habitat.modify_renamed id f) fun habitat =>
        congrArg (fun after => Except.ok ((), after)) (still habitat e.nursery)
  | remove id =>
      have taken : (e.renamed π other).habitat.take? (π id) = _ := e.habitat.take?_renamed id
      simp only [Request.renamed, perform, taken]
      cases e.habitat.take? id with
      | none => exact congrArg (fun after => Except.ok (false, after)) (still e.habitat e.nursery)
      | some pair => exact congrArg (fun after => Except.ok (true, after)) (still pair.2 e.nursery)
  | tick =>
      have ticked : (e.renamed π other).habitat.tick now = _ := Habitat.tick_renamed ordered now
      simp only [Request.renamed, perform, ticked]
      exact congrArg (fun after => Except.ok (_, after)) (still _ e.nursery)
  | shutdown =>
      exact congrArg (fun after => Except.ok ((), after)) (still e.habitat.shutdown e.nursery)
  | registerStrategy s =>
      exact bind_ofNursery_renamed (e.nursery.registerStrategy_renamed s) fun nursery =>
        congrArg (fun after => Except.ok ((), after)) (still e.habitat nursery)
  | registerLandscape l =>
      exact bind_ofNursery_renamed (e.nursery.registerLandscape_renamed l) fun nursery =>
        congrArg (fun after => Except.ok ((), after)) (still e.habitat nursery)
  | createPopulation name seeds strategyName =>
      have created := Nursery.createPopulation_renamed mirrors e.nursery fun result succeeded =>
        room (result.1, ⟨e.habitat, result.2.1, result.2.2⟩)
          (bind_eq_ok.mpr ⟨result, mapError_eq_ok.mpr succeeded, rfl⟩)
      exact bind_ofNursery_renamed created fun result => rfl
  | removePopulation name =>
      exact bind_ofNursery_renamed (e.nursery.removePopulation_renamed name) fun result =>
        congrArg (fun after => Except.ok (result.1.renamed π, after)) (still e.habitat result.2)
  | performSelection name strategyName =>
      have performed := Nursery.performSelection_renamed mirrors e.nursery fun result succeeded =>
        room (result.1, ⟨e.habitat, result.2.1, result.2.2⟩)
          (bind_eq_ok.mpr ⟨result, mapError_eq_ok.mpr succeeded, rfl⟩)
      exact bind_ofNursery_renamed performed fun result => rfl
  | runCycle =>
      have performed := Nursery.runCycle_renamed mirrors e.nursery fun result succeeded =>
        room (result.1, ⟨e.habitat, result.2.1, result.2.2⟩)
          (bind_eq_ok.mpr ⟨result, mapError_eq_ok.mpr succeeded, rfl⟩)
      exact bind_ofNursery_renamed performed fun result => rfl
  | harvest ids population strategyName =>
      exact harvest_renamed mirrors ids population strategyName room
  | release population ids => exact release_renamed mirrors population ids room
  | releaseAll population => exact releaseAll_renamed mirrors population room

/-! ## Scripts -/

/-- The ecosystem after a call, and the exchange that the call came to. -/
def meet (e : Ecosystem) (call : Call) : Exchange × Ecosystem :=
  let served := Service.outcome (Service.serve call.now call.request) e
  (⟨call.Answer, call.now, call.request, served.1⟩, served.2)

/-- The ecosystem after the calls of a script, which are served in place one after the other, and
all exchanges. -/
def run (e : Ecosystem) : List Call → List Exchange × Ecosystem
  | [] => ([], e)
  | call :: rest =>
      let met := e.meet call
      let others := met.2.run rest
      (met.1 :: others.1, others.2)

/-- A script that is run is a course. -/
theorem Course.run {first : Ecosystem} {before : List Exchange} (course : Course first before e)
    (script : List Call) : Course first (before ++ (e.run script).1) (e.run script).2 := by
  induction script generalizing before e with
  | nil =>
      rw [Ecosystem.run, List.append_nil]
      exact course
  | cons call rest inductionHypothesis =>
      have served : e.Serves (e.meet call).1 (e.meet call).2 := rfl
      rw [Ecosystem.run, List.append_cons]
      exact inductionHypothesis (course.step served)

/-- Each tick of the script goes through the residents in the same order under their new ids. -/
def KeepsOrder (π : Renaming) : Ecosystem → List Call → Prop
  | _, [] => True
  | e, call :: rest =>
      call.request.KeepsOrder π e.habitat ∧ KeepsOrder π (e.meet call).2 rest

/-- A call only takes ids from the front of the supply. -/
theorem meet_advances (e : Ecosystem) (call : Call) : e.supply.Advances (e.meet call).2.supply := by
  have met : (e.meet call).2 =
      (Service.inPlace e (e.perform call.now call.request)).2 :=
    congrArg Prod.snd (Service.serve_outcome call.now call.request e)
  rw [met]
  cases performed : e.perform call.now call.request with
  | error fault => exact IdSupply.Advances.refl e.supply
  | ok result => exact (effect_of_perform performed).advances

theorem run_advances (e : Ecosystem) (script : List Call) :
    e.supply.Advances (e.run script).2.supply := by
  induction script generalizing e with
  | nil => exact IdSupply.Advances.refl e.supply
  | cons call rest inductionHypothesis =>
      exact (e.meet_advances call).trans (inductionHypothesis (e.meet call).2)

/-- One call under other ids. -/
theorem meet_renamed (mirrors : Mirrors π limit e.supply other) (call : Call)
    (room : (e.meet call).2.supply.issued ≤ limit)
    (ordered : call.request.KeepsOrder π e.habitat) :
    (e.renamed π other).meet (call.renamed π) =
      let met := e.meet call
      (met.1.renamed π, met.2.renamed π (other.follow met.2.supply)) := by
  have served := Service.serve_outcome call.now call.request e
  have servedToo : Service.outcome (Service.serve call.now (call.request.renamed π))
      (e.renamed π other) = _ :=
    Service.serve_outcome call.now (call.request.renamed π) (e.renamed π other)
  unfold meet at room ⊢
  rw [served] at room ⊢
  have spared : ∀ result, e.perform call.now call.request = .ok result →
      result.2.supply.issued ≤ limit := by
    intro result performed
    rw [performed] at room
    exact room
  rw [perform_renamed mirrors call.request call.now spared ordered] at servedToo
  simp only [Call.renamed, servedToo]
  cases performed : e.perform call.now call.request with
  | error fault =>
      simp only [mapOutcome, Service.inPlace, mirrors.follow_self]
      rfl
  | ok result => rfl

/-- **A script under other ids.**  The exchanges and the ecosystem in the end are only renamed, as
long as the renaming keeps the residents in order where a tick goes through them. -/
theorem run_renamed (mirrors : Mirrors π limit e.supply other) (script : List Call)
    (room : (e.run script).2.supply.issued ≤ limit) (ordered : KeepsOrder π e script) :
    (e.renamed π other).run (script.map (Call.renamed π)) =
      let done := e.run script
      (done.1.map (Exchange.renamed π), done.2.renamed π (other.follow done.2.supply)) := by
  induction script generalizing e other with
  | nil => exact congrArg (fun s => ([], e.renamed π s)) mirrors.follow_self.symm
  | cons call rest inductionHypothesis =>
      obtain ⟨now, later⟩ := ordered
      have further := (e.meet call).2.run_advances rest
      have met := meet_renamed mirrors call (Nat.le_trans further.issued room) now
      have others := inductionHypothesis (mirrors.follow (e.meet_advances call)) room later
      simp only [List.map_cons, run, met]
      rw [others]
      rfl

end Ecosystem

end Vivarium
