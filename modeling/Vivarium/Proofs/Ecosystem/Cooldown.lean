import Mathlib.Data.List.Chain
import Vivarium.Proofs.Ecosystem.Cycles
import Vivarium.Proofs.Ecosystem.CycleLog
import Vivarium.Proofs.Organism.Readiness

/-!
# The cooldown of evolution

Between two steps of its evolution an organism has to wait, unless a step is forced on it.
What it waits for is the time since its last step, forced or not, and that is noted on the
organism itself; so each step that was not forced lies a whole wait behind the one before it,
whatever the clock has done meanwhile.  Steps that are further apart are a matter of the
clock, since a step that was forced while it was set back counts from there.

The wait is the cooldown of the configuration if that is no longer than a signed machine word
of milliseconds, and five seconds otherwise.

Main definitions:

* `CycleRecord.Evolved`: a cycle on record in which an organism was ready and has evolved;
* `EvolutionStep`, `EvolutionStep.Waits`: steps of evolution and the wait between them;
* `Ecosystem.Watched`: an organism stays registered, with all steps of its evolution.

Main statements:

* `CycleRecord.IsRun.evolved`: who evolves in a cycle has waited;
* `Ecosystem.Fate.evolution`, `Ecosystem.Watched.waits`: one request, and all of them;
* `Ecosystem.evolution_respects_cooldown`: the cycles and the steps of a run.
-/

namespace Vivarium

/-! ## Cycles on record -/

namespace CycleRecord

variable {config : HabitatConfig} {record : CycleRecord}

/-- The organism has evolved in the cycle, was strong enough for it, and had waited. -/
structure Evolved (config : HabitatConfig) (wait : Nat) (record : CycleRecord) : Prop where
  waited : wait ≤ record.now.since record.before.organism.lastEvolved
  /-- The tick in front of the step has left enough energy and fitness, -/
  ready : ∃ fitness coherence, let fed := record.before.organism.fed config fitness coherence
    config.evolutionEnergyThreshold < fed.state.energy ∧
      config.evolutionFitnessThreshold < fed.state.fitness ∧
      fed.HasEvolved record.now record.after.organism
  /-- which are there still, -/
  energy : config.evolutionEnergyThreshold < record.after.organism.state.energy
  fitness : config.evolutionFitnessThreshold < record.after.organism.state.fitness
  /-- and the step is noted. -/
  noted : record.after.organism.lastEvolved = record.now

/-- Who evolves in a cycle has waited. -/
theorem IsRun.evolved (run : record.IsRun config) (evolves : record.outcome = .ticked true) :
    record.Evolved config (Organism.cooldownNanos config.evolutionCooldown) := by
  have possible := run.yields
  rw [evolves] at possible
  rcases Resident.outcome_of_yields_cycle possible with
    ⟨-, impossible | impossible⟩ | ⟨_, -, -, impossible⟩ | ⟨_, drawn, same⟩
  · cases impossible
  · cases impossible
  · cases impossible
  · cases same
    obtain ⟨fitness, coherence, ready, normal, evolved⟩ :=
      Organism.hasEvolved_of_yields_tick drawn
    obtain ⟨strong, fit, waited⟩ := Organism.isReady_iff.mp ready
    obtain ⟨-, -, keepsFitness, keepsEnergy⟩ := State.isNormal_iff.mp normal
    refine ⟨waited, ⟨fitness, coherence, strong, fit, evolved⟩, ?_, ?_, evolved.noted⟩
    · rw [evolved.energy, keepsEnergy]
      exact strong
    · rw [evolved.fitness, keepsFitness]
      exact fit

end CycleRecord

/-! ## Steps of evolution -/

/-- A step of an organism's evolution, which was forced on it or came at the end of a tick. -/
structure EvolutionStep where
  now : Instant
  forced : Bool
  deriving Repr, DecidableEq

namespace EvolutionStep

/-- A step that is not forced waits behind the one before it. -/
def Waits (wait : Nat) (earlier step : EvolutionStep) : Prop :=
  step.forced = false → wait ≤ step.now.since earlier.now

variable {wait : Nat} {one other : EvolutionStep} {between rest : List EvolutionStep}

/-- Of steps that wait for each other, each waits for any earlier one as well, unless one was
forced between them at a time before that. -/
theorem waits_of_isChain (waits : (one :: (between ++ other :: rest)).IsChain (Waits wait))
    (driven : other.forced = false)
    (onward : ∀ step ∈ between, step.forced = true → 0 ≤ step.now.since one.now) :
    wait ≤ other.now.since one.now := by
  -- whatever lies between is not before the first step
  suffices later : ∀ last : EvolutionStep, 0 ≤ last.now.since one.now →
      (last :: (between ++ other :: rest)).IsChain (Waits wait) →
      wait ≤ other.now.since one.now from
    later one (Int.le_of_eq (Instant.since_self _).symm) waits
  clear waits
  induction between with
  | nil =>
      intro last behind waits
      have waited : (wait : Int) ≤ other.now.since last.now :=
        (List.isChain_cons_cons.mp waits).1 driven
      simp only [Instant.since] at *
      omega
  | cons step between inductionHypothesis =>
      intro last behind waits
      obtain ⟨here, others⟩ := List.isChain_cons_cons.mp waits
      obtain ⟨forcedOnward, onward⟩ := List.forall_mem_cons.mp onward
      refine inductionHypothesis onward step ?_ others
      cases forced : step.forced with
      | true => exact forcedOnward forced
      | false =>
          have waited : (wait : Int) ≤ step.now.since last.now := here forced
          simp only [Instant.since] at *
          omega

end EvolutionStep

namespace Ecosystem

/-- The step of evolution that a request forces on the organism of an id. -/
def forcedSteps {α : Type} (e : Ecosystem) (now : Instant) (id : OrganismId)
    (request : Request α) : List EvolutionStep :=
  if request.forces id && (e.habitat.evolve id now).toOption.any (·.1) then [⟨now, true⟩] else []

/-- The steps that the organism of an id takes over a request. -/
def evolutionSteps {α : Type} (e : Ecosystem) (now : Instant) (id : OrganismId)
    (request : Request α) : List EvolutionStep :=
  ((CycleRecord.own id (e.log now request)).filter (·.outcome = .ticked true)).map
      (fun record => ⟨record.now, false⟩) ++
    e.forcedSteps now id request

variable {e later : Ecosystem} {id : OrganismId} {r : Resident}

/-- Over a request an organism takes one step at most, which is noted, and which has waited
unless it was forced. -/
theorem Fate.evolution {α : Type} {now : Instant} {request : Request α} {changed : Resident}
    (found : e.habitat.residents.find? id = some r) (fate : e.Fate now request id r changed) :
    (e.evolutionSteps now id request = [] ∧
        changed.organism.lastEvolved = r.organism.lastEvolved) ∨
      ∃ forced, e.evolutionSteps now id request = [⟨now, forced⟩] ∧
        changed.organism.lastEvolved = now ∧
        (forced = false → Organism.cooldownNanos e.habitat.config.evolutionCooldown ≤
          now.since r.organism.lastEvolved) := by
  cases fate with
  | spared own unforced => exact Or.inl ⟨by simp [evolutionSteps, forcedSteps, own, unforced], rfl⟩
  | @cycled record own unforced same =>
      have member : record ∈ CycleRecord.own id (e.log now request) := by
        rw [own]
        exact List.mem_singleton_self record
      obtain ⟨run, rfl⟩ := isRun_of_mem_log (List.mem_filter.mp member).1
      subst same
      by_cases evolves : record.outcome = .ticked true
      · have evolved := run.evolved evolves
        refine Or.inr ⟨false, ?_, evolved.noted, fun _ => evolved.waited⟩
        simp [evolutionSteps, forcedSteps, own, unforced, evolves]
      · refine Or.inl ⟨?_, Resident.lastEvolved_of_yields_cycle run.yields evolves⟩
        simp [evolutionSteps, forcedSteps, own, unforced, evolves]
  | @evolved evolved outcome rng own forced drawn =>
      have evolution := Habitat.evolve_of_find? found drawn
      cases outcome with
      | none =>
          refine Or.inl ⟨?_, ?_⟩
          · simp [evolutionSteps, forcedSteps, own, forced, evolution, Except.toOption]
          · rw [Organism.eq_of_yields_evolve_none ⟨_, congrArg Prod.fst drawn⟩]
      | some effect =>
          refine Or.inr ⟨true, ?_, ?_, nofun⟩
          · simp [evolutionSteps, forcedSteps, own, forced, evolution, Except.toOption]
          · exact (Organism.hasEvolved_of_yields_evolve ⟨_, congrArg Prod.fst drawn⟩).noted

/-- A request that fails has nobody take a step. -/
theorem evolutionSteps_of_error {α : Type} {now : Instant} {request : Request α}
    {fault : EcosystemFault} (failed : e.perform now request = .error fault) :
    e.evolutionSteps now id request = [] := by
  have unforced : e.forcedSteps now id request = [] := by
    cases request with
    | evolve key =>
        by_cases here : key = id
        · subst here
          cases evolution : e.habitat.evolve key now with
          | error => simp [forcedSteps, evolution, Except.toOption]
          | ok result =>
              simp only [perform, ofHabitat, evolution] at failed
              cases failed
        · simp [forcedSteps, Request.forces, here]
    | _ => rfl
  rw [evolutionSteps, log_of_error failed, unforced]
  rfl

/-- An organism stays registered under its id, with all steps of its evolution meanwhile: it is
there after each request, and no request gives the id out anew or modifies the organism from
outside. -/
inductive Watched (id : OrganismId) (first : Ecosystem) :
    List Exchange → List EvolutionStep → Ecosystem → Prop where
  | start : Watched id first [] [] first
  | step {exchanges : List Exchange} {steps : List EvolutionStep} {e later : Ecosystem}
      {x : Exchange} (before : Watched id first exchanges steps e)
      (unmodified : x.request.modifies id = false) (served : e.Serves x later)
      (registered : later.habitat.contains id = true)
      (fresh : ¬e.supply.Pending later.supply.issued id) :
      Watched id first (exchanges ++ [x]) (steps ++ e.evolutionSteps x.now id x.request) later

namespace Watched

variable {exchanges : List Exchange} {steps : List EvolutionStep}

theorem course (watched : Watched id e exchanges steps later) : Course e exchanges later := by
  induction watched with
  | start => exact .start
  | step _ _ served _ _ inductionHypothesis => exact inductionHypothesis.step served

/-- One more cycle is served, which does not let go of the organism. -/
theorem goOn {α : Type} (watched : Watched id e exchanges steps later) (now : Instant)
    (request : Request α) (cycle : request.IsCycle)
    (registered : (later.having now request).habitat.contains id = true)
    (unissued : (later.having now request).supply.issued ≤ later.supply.issued) :
    Watched id e (exchanges ++ [later.asked now request])
      (steps ++ later.evolutionSteps now id request) (later.having now request) :=
  watched.step (Request.modifies_of_not_modifies cycle.not_modifies id)
    (later.serves_asked now request) registered (IdSupply.not_pending_of_le unissued)

/-- The last step of an organism is noted on it, and the steps wait for each other. -/
theorem waits (watched : Watched id e exchanges steps later)
    (found : e.habitat.residents.find? id = some r) :
    let since : EvolutionStep := ⟨r.organism.lastEvolved, true⟩
    (since :: steps).IsChain
        (EvolutionStep.Waits (Organism.cooldownNanos e.habitat.config.evolutionCooldown)) ∧
      ∃ changed, later.habitat.residents.find? id = some changed ∧
        ∃ step ∈ (since :: steps).getLast?, changed.organism.lastEvolved = step.now := by
  intro since
  induction watched with
  | start => exact ⟨List.isChain_singleton _, r, found, since, rfl, rfl⟩
  | @step exchanges steps middle last x before unmodified served registered fresh
      inductionHypothesis =>
      obtain ⟨waits, between, there, latest, isLast, noted⟩ := inductionHypothesis
      rcases of_served served with ⟨answer, -, effect⟩ | ⟨fault, -, failed, rfl⟩
      · obtain ⟨changed, last, fate⟩ := effect.fate unmodified there registered fresh
        rcases fate.evolution there with ⟨none, same⟩ | ⟨forced, one, stamped, waited⟩
        · rw [none, List.append_nil]
          exact ⟨waits, changed, last, latest, isLast, same.trans noted⟩
        · obtain ⟨records, logged⟩ := Logged.of_course before.course
          rw [logged.config, noted] at waited
          rw [one, ← List.cons_append]
          refine ⟨waits.append (List.isChain_singleton _) ?_, changed, last, _,
            List.getLast?_concat, stamped⟩
          intro earlier isEarlier step isNext
          obtain rfl : latest = earlier := Option.some.inj (isLast.symm.trans isEarlier)
          obtain rfl : ⟨x.now, forced⟩ = step := Option.some.inj isNext
          exact waited
      · rw [evolutionSteps_of_error failed, List.append_nil]
        exact ⟨waits, between, there, latest, isLast, noted⟩

end Watched

/-- **Evolution respects the cooldown.**  Whenever an organism evolves in a cycle of a run, be it
in a tick of all or in one of its own, the last step of its evolution lies back a whole wait at
least, and its energy and fitness after the tick exceed their thresholds.  The wait is the
cooldown that is configured, unless that is more milliseconds than a signed machine word holds;
then it is five seconds.  As long as an organism stays and nobody modifies it from outside, each
of its steps that was not forced lies a whole wait behind the one before it, forced or not, and
so does it behind any earlier one, unless the clock was set back in between behind that one and
a step was forced then. -/
theorem evolution_respects_cooldown {c : Config} {habitatSeed nurserySeed : Nat}
    {supply : IdSupply} {past : List Exchange} {records : List CycleRecord} {e : Ecosystem}
    (logged : Logged (founded c habitatSeed nurserySeed supply) past records e) :
    let cooldown := c.habitat.evolutionCooldown.totalNanos
    let wait := if cooldown ≤ (2 ^ 63 - 1) * 10 ^ 6 then cooldown else 5 * 10 ^ 9
    (∀ record ∈ records, record.outcome = .ticked true → record.Evolved c.habitat wait) ∧
    ∀ id r exchanges steps later, e.habitat.residents.find? id = some r →
      Watched id e exchanges steps later →
      (⟨r.organism.lastEvolved, true⟩ :: steps).IsChain (EvolutionStep.Waits wait) ∧
      ∀ front one between other rest, steps = front ++ one :: (between ++ other :: rest) →
        other.forced = false →
        (∀ step ∈ between, step.forced = true → 0 ≤ step.now.since one.now) →
        (wait : Int) ≤ other.now.since one.now := by
  intro cooldown wait
  have same : Organism.cooldownNanos c.habitat.evolutionCooldown = wait := rfl
  have constants : e.habitat.config = c.habitat := logged.config
  refine ⟨fun record member evolves => ?_, ?_⟩
  · have run : record.IsRun c.habitat := logged.runs record member
    exact same ▸ run.evolved evolves
  intro id r exchanges steps later found watched
  obtain ⟨waits, -⟩ := watched.waits found
  rw [constants, same] at waits
  refine ⟨waits, ?_⟩
  rintro front one between other rest rfl driven onward
  have latter := List.suffix_append (⟨r.organism.lastEvolved, true⟩ :: front)
    (one :: (between ++ other :: rest))
  exact EvolutionStep.waits_of_isChain (waits.suffix latter) driven onward

/-- The newt at its fittest evolves at the end of a tick, has a step forced on it, and evolves
again when it has waited for that one. -/
theorem evolution_respects_cooldown_eager :
    let nest := (wasteland.registered eager).2
    let monday := nest.having ⟨604800, 0⟩ .tick
    let forced := monday.having ⟨604803, 0⟩ (.evolve newt.id)
    let steps := monday.evolutionSteps ⟨604803, 0⟩ newt.id (.evolve newt.id) ++
      forced.evolutionSteps ⟨604810, 0⟩ newt.id .tick
    (∃ record ∈ nest.habitat.tickLog ⟨604800, 0⟩,
      record.Evolved Config.standard.habitat (5 * 10 ^ 9)) ∧
    steps = [⟨⟨604803, 0⟩, true⟩, ⟨⟨604810, 0⟩, false⟩] ∧
      ∀ one other, steps = [one, other] → (5 * 10 ^ 9 : Nat) ≤ other.now.since one.now := by
  intro nest monday forced steps
  have registered := Logged.start.step (wasteland.serves_asked ⟨0, 0⟩ (.register eager))
  have logged := registered.step (nest.serves_asked ⟨604800, 0⟩ .tick)
  obtain ⟨each, stays⟩ := evolution_respects_cooldown logged
  have started : Watched newt.id monday [] [] monday := .start
  have pressed := started.goOn ⟨604803, 0⟩ (.evolve newt.id) trivial
    (by decide +kernel) (by decide +kernel)
  have watched := pressed.goOn ⟨604810, 0⟩ .tick trivial
    (by decide +kernel) (by decide +kernel)
  obtain ⟨r, found⟩ : ∃ r, monday.habitat.residents.find? newt.id = some r :=
    Directory.contains_iff.mp (by decide +kernel)
  have taken : steps = [⟨⟨604803, 0⟩, true⟩, ⟨⟨604810, 0⟩, false⟩] := by decide +kernel
  obtain ⟨record, member, evolves⟩ : ∃ record ∈ nest.habitat.tickLog ⟨604800, 0⟩,
      record.outcome = .ticked true := by decide +kernel
  have evolved : record.Evolved Config.standard.habitat
      (Organism.cooldownNanos Config.standard.habitat.evolutionCooldown) :=
    each record (List.mem_append_right _ member) evolves
  have wait : Organism.cooldownNanos Config.standard.habitat.evolutionCooldown = 5 * 10 ^ 9 := by
    decide +kernel
  refine ⟨⟨record, member, wait ▸ evolved⟩, taken, ?_⟩
  intro one other same
  have driven : other.forced = false := by
    rw [taken] at same
    cases same
    rfl
  have apart : (Organism.cooldownNanos Config.standard.habitat.evolutionCooldown : Int) ≤
      other.now.since one.now :=
    (stays newt.id r _ _ _ found watched).2 [] one [] other [] same driven (List.forall_mem_nil _)
  rwa [wait] at apart

/-- A step forced while the clock is set back takes the wait back with it, so that the steps
around it lie closer together. -/
theorem steps_around_set_back_clock :
    let nest := (wasteland.registered eager).2
    let first := nest.having ⟨100, 0⟩ .tick
    let second := first.having ⟨96, 0⟩ (.evolve newt.id)
    ∃ exchanges, Watched newt.id nest exchanges
      [⟨⟨100, 0⟩, false⟩, ⟨⟨96, 0⟩, true⟩, ⟨⟨101, 0⟩, false⟩] (second.having ⟨101, 0⟩ .tick) := by
  intro nest first second
  have started : Watched newt.id nest [] [] nest := .start
  have ticked := started.goOn ⟨100, 0⟩ .tick trivial
    (by decide +kernel) (by decide +kernel)
  have pressed := ticked.goOn ⟨96, 0⟩ (.evolve newt.id) trivial
    (by decide +kernel) (by decide +kernel)
  have watched := pressed.goOn ⟨101, 0⟩ .tick trivial
    (by decide +kernel) (by decide +kernel)
  have taken : [] ++ nest.evolutionSteps ⟨100, 0⟩ newt.id .tick ++
      first.evolutionSteps ⟨96, 0⟩ newt.id (.evolve newt.id) ++
      second.evolutionSteps ⟨101, 0⟩ newt.id .tick =
        [⟨⟨100, 0⟩, false⟩, ⟨⟨96, 0⟩, true⟩, ⟨⟨101, 0⟩, false⟩] := by
    decide +kernel
  exact ⟨_, taken ▸ watched⟩

/-- A cooldown of more milliseconds than a signed machine word holds. -/
def patient : Config :=
  { Config.standard with
    habitat := { HabitatConfig.standard with evolutionCooldown := Span.ofMillis (2 ^ 63) } }

/-- Such a cooldown passes the check, and the newt evolves after five seconds of it. -/
theorem evolution_before_cooldown :
    patient.fault? = none ∧
    ∃ exchanges records e, Logged (founded patient 1 2 IdSupply.numbered) exchanges records e ∧
      ∃ record ∈ records, record.outcome = .ticked true ∧
        record.now.since record.before.organism.lastEvolved <
          patient.habitat.evolutionCooldown.totalNanos := by
  refine ⟨by decide +kernel, ?_⟩
  let dawn := founded patient 1 2 IdSupply.numbered
  let nest := (dawn.registered eager).2
  have registered : Logged dawn _ _ nest :=
    Logged.start.step (dawn.serves_asked ⟨0, 0⟩ (.register eager))
  have ticked := registered.step (nest.serves_asked ⟨5, 0⟩ .tick)
  obtain ⟨record, member, evolves⟩ : ∃ record ∈ nest.habitat.tickLog ⟨5, 0⟩,
      record.outcome = .ticked true ∧
        record.now.since record.before.organism.lastEvolved <
          patient.habitat.evolutionCooldown.totalNanos := by decide +kernel
  exact ⟨_, _, _, ticked, record, List.mem_append_right _ member, evolves⟩

end Ecosystem

end Vivarium
