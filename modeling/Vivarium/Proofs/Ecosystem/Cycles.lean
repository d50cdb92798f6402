import Vivarium.Proofs.Ecosystem.Identity
import Vivarium.Proofs.Habitat.Ledger

/-!
# Cycles accounted for

Whoever looks at the counters of a habitat can tell how many cycles its organisms have gone
through: all of them in every cycle of the habitat, and one in every execution.  What comes
and goes in between does not matter.  How many organisms there were at each cycle is not in
the exchanges, so it is told along with the course.

As long as nothing is asked but cycles and evolution, the organisms remain the same, and
their counts advance together with the counter of evolutions.

Main definitions:

* `Request.IsCycle`: cycles and steps of evolution;
* `HabitatCounters.Tallies`: counters so many cycles later;
* `Ecosystem.Attended`: a course with the number of organisms at each cycle of the habitat.

Main statements:

* `Ecosystem.Effect.tallies`, `Ecosystem.Effect.matures`: what one request counts;
* `Ecosystem.cycles_accounted`: the counters after a course.
-/

namespace Vivarium

open Number

/-! ## Requests -/

namespace Request

variable {α : Type}

/-- The request takes organisms through cycles or steps of evolution. -/
def IsCycle : Request α → Prop
  | execute _ => True
  | evolve _ => True
  | tick => True
  | _ => False

theorem IsCycle.not_modifies {request : Request α} (cycle : request.IsCycle) :
    ¬request.Modifies := by
  cases request with
  | modify => exact absurd cycle not_false
  | _ => exact not_false

/-- The request takes one organism through a cycle. -/
def isExecution : Request α → Bool
  | execute _ => true
  | _ => false

end Request

/-- One organism was taken through a cycle. -/
def Exchange.isExecution (x : Exchange) : Bool :=
  match x.answer with
  | .ok _ => x.request.isExecution
  | .error _ => false

/-! ## Counters -/

/-- So many cycles were counted between two states of the counters. -/
structure HabitatCounters.Tallies (cycles : Nat) (counters later : HabitatCounters) : Prop where
  /-- Each of them is a tick or a regeneration. -/
  total : later.organismTicks + later.regenerations =
    counters.organismTicks + counters.regenerations + cycles
  failures : counters.tickFailures ≤ counters.organismTicks →
    later.tickFailures ≤ later.organismTicks

namespace HabitatCounters.Tallies

variable {counters later last : HabitatCounters}

theorem of_eq (same : later = counters) : Tallies 0 counters later := by
  subst same
  exact ⟨rfl, id⟩

theorem record (counters : HabitatCounters) (report : TickReport) :
    Tallies report.total counters (counters.record report) :=
  ⟨counters.record_total report, counters.record_tickFailures report⟩

theorem trans {first second : Nat} (before : Tallies first counters later)
    (behind : Tallies second later last) : Tallies (first + second) counters last := by
  refine ⟨?_, fun failures => behind.failures (before.failures failures)⟩
  rw [behind.total, before.total, Nat.add_assoc]

end HabitatCounters.Tallies

namespace Ecosystem

open HabitatCounters

/-- A release changes the residents of the habitat and nothing else about it. -/
theorem others_releaseEach (h : Habitat) (p : Population) (supply : IdSupply)
    (ids : List OrganismId) :
    (releaseEach h p supply ids).2.1 =
      { h with residents := (releaseEach h p supply ids).2.1.residents } := by
  induction ids generalizing h p supply with
  | nil => rfl
  | cons id rest inductionHypothesis =>
      unfold releaseEach
      cases p.take? id with
      | none => exact inductionHypothesis h p supply
      | some pair => exact inductionHypothesis (h.enroll supply pair.1).2.1 pair.2 _

/-- So it counts nothing. -/
theorem counters_releaseEach (h : Habitat) (p : Population) (supply : IdSupply)
    (ids : List OrganismId) : (releaseEach h p supply ids).2.1.counters = h.counters := by
  rw [others_releaseEach]

/-- The number of organisms in a cycle of the habitat, if the request is for one. -/
def attendance {α : Type} (e : Ecosystem) : Request α → List Nat
  | .tick => [e.habitat.residents.size]
  | _ => []

variable {e later : Ecosystem} {α : Type} {now : Instant} {request : Request α} {answer : α}

/-- A cycle is counted for every organism in a cycle of the habitat, and for the one that is
executed. -/
theorem Effect.tallies (effect : e.Effect now request answer later) :
    Tallies ((e.attendance request).sum + if request.isExecution then 1 else 0)
      e.habitat.counters later.habitat.counters := by
  cases effect with
  | @execute id r cycled outcome rng found drawn =>
      have alone : (TickReport.empty.add outcome).total = 1 := TickReport.add_total _ _
      have recorded := Tallies.record e.habitat.counters (TickReport.empty.add outcome)
      rw [alone] at recorded
      exact recorded
  | tick =>
      have recorded := Tallies.record e.habitat.counters (e.habitat.tick now).1
      rw [Habitat.total_tick] at recorded
      exact ⟨recorded.total, recorded.failures⟩
  | evolve => exact ⟨rfl, id⟩
  | @harvest ids =>
      have uncounted : (takeAll e.habitat ids).2.counters = e.habitat.counters := by
        rw [(takeAll_isTaking e.habitat ids).others]
      exact Tallies.of_eq uncounted
  | release => exact Tallies.of_eq (counters_releaseEach _ _ _ _)
  | releaseAll => exact Tallies.of_eq (counters_releaseEach _ _ _ _)
  | register => exact Tallies.of_eq rfl
  | modify => exact Tallies.of_eq rfl
  | remove => exact Tallies.of_eq rfl
  | removeNothing => exact Tallies.of_eq rfl
  | shutdown => exact Tallies.of_eq rfl
  | registerStrategy => exact Tallies.of_eq rfl
  | registerLandscape => exact Tallies.of_eq rfl
  | createPopulation => exact Tallies.of_eq rfl
  | removePopulation => exact Tallies.of_eq rfl
  | performSelection => exact Tallies.of_eq rfl
  | runCycle => exact Tallies.of_eq rfl

/-- A cycle matures the organisms by as many steps as are counted. -/
theorem Effect.matures (effect : e.Effect now request answer later) (cycle : request.IsCycle) :
    ∃ steps, Habitat.MaturesBy steps e.habitat later.habitat := by
  cases effect with
  | @execute id r cycled outcome rng found drawn =>
      obtain ⟨ages, -⟩ := Resident.of_outcome ⟨e.habitat.rng, congrArg Prod.fst drawn⟩
      refine ⟨_, Habitat.maturesBy_put found ages rfl ?_⟩
      show e.habitat.counters.evolutions + (TickReport.empty.add outcome).evolved = _
      rw [TickReport.add_evolved, TickReport.empty, Nat.zero_add]
  | @evolve id r evolved outcome rng found drawn =>
      let aged : Resident := { r with organism := evolved }
      have ages : Organism.AgesBy _ r.organism aged.organism :=
        Organism.agesBy_of_yields_evolve ⟨e.habitat.rng, congrArg Prod.fst drawn⟩
      exact ⟨_, Habitat.maturesBy_put found ages rfl rfl⟩
  | tick => exact Habitat.maturesBy_tick e.habitat now
  | _ => exact absurd cycle not_false

/-! ## Courses -/

/-- A course with the number of organisms at each cycle of the habitat. -/
inductive Attended (first : Ecosystem) : List Exchange → List Nat → Ecosystem → Prop where
  | start : Attended first [] [] first
  | step {exchanges : List Exchange} {counts : List Nat} {e later : Ecosystem} {x : Exchange}
      (before : Attended first exchanges counts e) (served : e.Serves x later) :
      Attended first (exchanges ++ [x]) (counts ++ e.attendance x.request) later

variable {first : Ecosystem} {exchanges : List Exchange} {counts : List Nat}

/-- Every course can be told with these numbers. -/
theorem Course.exists_attended (course : Course first exchanges e) :
    ∃ counts, Attended first exchanges counts e := by
  induction course with
  | start => exact ⟨[], Attended.start⟩
  | step before served inductionHypothesis =>
      obtain ⟨counts, attended⟩ := inductionHypothesis
      exact ⟨_, attended.step served⟩

/-- A request that fails is not for a cycle of the habitat. -/
theorem attendance_of_error {fault : EcosystemFault}
    (failed : e.perform now request = .error fault) : e.attendance request = [] := by
  cases request with
  | tick => cases failed
  | _ => rfl

/-- All cycles of a course are counted, and none besides. -/
theorem Attended.tallies (attended : Attended first exchanges counts e) :
    Tallies (counts.sum + exchanges.countP Exchange.isExecution) first.habitat.counters
      e.habitat.counters := by
  induction attended with
  | start => exact Tallies.of_eq rfl
  | @step exchanges counts e later x before served inductionHypothesis =>
      have counted : Tallies ((e.attendance x.request).sum + if x.isExecution then 1 else 0)
          e.habitat.counters later.habitat.counters := by
        rcases of_served served with ⟨answer, granted, effect⟩ | ⟨fault, refused, failed, rfl⟩
        · simp only [Exchange.isExecution, granted]
          exact effect.tallies
        · simp only [Exchange.isExecution, refused, attendance_of_error failed]
          exact Tallies.of_eq rfl
      have whole := inductionHypothesis.trans counted
      rw [List.sum_append, List.countP_append, List.countP_singleton, Nat.add_add_add_comm]
      exact whole

/-- Over a course of cycles the organisms mature by as many steps as are counted. -/
theorem Course.matures (course : Course first exchanges e)
    (cycles : ∀ x ∈ exchanges, x.request.IsCycle) :
    ∃ steps, Habitat.MaturesBy steps first.habitat e.habitat := by
  refine course.keeps (fun e => ∃ steps, Habitat.MaturesBy steps first.habitat e.habitat)
    cycles ⟨_, Habitat.MaturesBy.refl _⟩ ?_
  intro e later x answer matured cycle _ effect
  obtain ⟨steps, before⟩ := matured
  obtain ⟨more, behind⟩ := effect.matures cycle
  exact ⟨_, before.trans behind⟩

/-- **Cycles are accounted for.**  In a cycle of the habitat each of its organisms meets one
outcome; only who ticks evolves; and the roster kept along has as many resting organisms
afterwards as are reported to rest.  Over a course, ticks and regenerations together are as
many as there were organisms in the cycles of the habitat and executions besides; no more
ticks have failed than there were.  From then on, cycles and steps of evolution leave the
same organisms, each of them some steps later, and count all of these steps as evolutions.  These
are as many as the generations, and as the mutations, by which all organisms together advance, if
the generation, or the count of mutations, of each has room for its steps. -/
theorem cycles_accounted {c : Config} {habitatSeed nurserySeed : Nat} {supply : IdSupply}
    (course : Course (founded c habitatSeed nurserySeed supply) exchanges e) :
    (∀ now, let report := (e.habitat.tick now).1
      report.ticked + report.failed + report.resting + report.resumed =
          e.habitat.residents.size ∧
        report.evolved ≤ report.ticked ∧
        (e.habitat.tick now).2.restingIds.length = report.resting ∧
        ∀ limit s, Accompanied limit e s → s.organisms.size = e.habitat.residents.size ∧
          (s.serve e now .tick).resting.card = report.resting) ∧
    ((∃ counts, Attended (founded c habitatSeed nurserySeed supply) exchanges counts e) ∧
      ∀ counts, Attended (founded c habitatSeed nurserySeed supply) exchanges counts e →
        e.habitat.counters.organismTicks + e.habitat.counters.regenerations =
            counts.sum + exchanges.countP Exchange.isExecution ∧
          e.habitat.counters.tickFailures ≤ e.habitat.counters.organismTicks) ∧
    ∀ stretch later, Course e stretch later → (∀ x ∈ stretch, x.request.IsCycle) →
      ∃ steps : OrganismId → Nat, later.habitat.ids = e.habitat.ids ∧
        later.habitat.counters.evolutions =
          e.habitat.counters.evolutions + (e.habitat.ids.map steps).sum ∧
        (∀ id o, e.habitat.find? id = some o → ∃ aged, later.habitat.find? id = some aged ∧
          Organism.AgesBy (steps id) o aged) ∧
        ((∀ id o, e.habitat.find? id = some o → HasRoom o.state.generation (steps id)) →
          later.habitat.generations =
            e.habitat.generations + (e.habitat.ids.map steps).sum) ∧
        ((∀ id o, e.habitat.find? id = some o → HasRoom o.state.mutations (steps id)) →
          later.habitat.mutations =
            e.habitat.mutations + (e.habitat.ids.map steps).sum) := by
  refine ⟨?_, ⟨course.exists_attended, ?_⟩, ?_⟩
  · intro now report
    have rested := e.habitat.length_restingIds_tick now
    refine ⟨e.habitat.total_tick now, e.habitat.evolved_tick_le now, rested, ?_⟩
    intro limit s accompanied
    obtain ⟨-, keeps⟩ := accompanied.keeps
    exact ⟨keeps.size.symm, (keeps.tick now).length_restingIds.symm.trans rested⟩
  · intro counts attended
    obtain ⟨total, failures⟩ := attended.tallies
    exact ⟨total.trans (Nat.zero_add _), failures (Nat.le_refl 0)⟩
  · intro stretch later cycles cycling
    obtain ⟨steps, matures⟩ := cycles.matures cycling
    exact ⟨steps, matures.ids, matures.counted, matures.aged, matures.sum_counts⟩

/-- The newt at its fittest, which evolves whenever it may. -/
def eager : Organism :=
  { newt with
    state := { newt.state with fitness := 1.0 }
    evolution := { newt.evolution with mutationRate := 1.0 } }

/-- Who tires of a cycle is counted with it, and who evolves in the next one is counted with
that. -/
theorem cycles_accounted_eager :
    let nest := (wasteland.registered eager).2
    let day := { nest with habitat := (nest.habitat.tick ⟨0, 0⟩).2 }
    let week := { day with habitat := (day.habitat.tick ⟨604800, 0⟩).2 }
    day.habitat.counters.organismTicks + day.habitat.counters.regenerations = 1 ∧
      (∃ s, Accompanied 100 day s ∧ (s.serve day ⟨604800, 0⟩ .tick).resting.card = 0) ∧
      week.habitat.generations = day.habitat.generations + 1 ∧
      week.habitat.mutations = day.habitat.mutations + 1 := by
  intro nest day week
  have registered : wasteland.Serves
      (Exchange.granted ⟨0, 0⟩ (.register eager) (wasteland.registered eager).1) nest :=
    serves_of_effect (Effect.register eager rfl)
  have dawned : nest.Serves (Exchange.granted ⟨0, 0⟩ .tick (nest.habitat.tick ⟨0, 0⟩).1) day :=
    serves_of_effect Effect.tick
  have passed : day.Serves
      (Exchange.granted ⟨604800, 0⟩ .tick (day.habitat.tick ⟨604800, 0⟩).1) week :=
    serves_of_effect Effect.tick
  obtain ⟨reported, ⟨-, counted⟩, matures⟩ :=
    cycles_accounted ((Course.start.step registered).step dawned)
  obtain ⟨-, -, -, roster⟩ := reported ⟨604800, 0⟩
  have attended := (Attended.start.step registered).step dawned
  have founded : Accompanied 100 wasteland Roster.empty :=
    Accompanied.founded _ _ _ _ (IdSupply.numbered_distinct (by decide))
  have unlike : ∀ o ∈ (Request.register eager).entering, ¬wasteland.supply.Pending 100 o.id :=
    List.forall_mem_singleton.mpr newt_not_pending
  have arrived : Accompanied 100 nest _ :=
    founded.after ⟨0, 0⟩ (Effect.register eager rfl) trivial unlike (by decide +kernel)
  have awake : Accompanied 100 day _ :=
    arrived.after ⟨0, 0⟩ Effect.tick trivial (List.forall_mem_nil _) (by decide +kernel)
  refine ⟨(counted _ attended).1, ⟨_, awake, ?_⟩, ?_⟩
  · rw [(roster 100 _ awake).2]
    decide +kernel
  · obtain ⟨steps, -, evolutions, -, generations, mutations⟩ :=
      matures _ week (Course.start.step passed) (List.forall_mem_singleton.mpr trivial)
    have alone : day.habitat.ids = [newt.id] := by decide +kernel
    have before : day.habitat.counters.evolutions = 0 := by decide +kernel
    have after : week.habitat.counters.evolutions = 1 := by decide +kernel
    have once : steps newt.id = 1 := by
      rw [before, after, alone] at evolutions
      simpa using evolutions.symm
    have young : ∀ id o, day.habitat.find? id = some o → id = newt.id ∧
        HasRoom o.state.generation 1 ∧ HasRoom o.state.mutations 1 := by
      intro id o found
      have registered := Habitat.contains_iff_find?.mpr ⟨o, found⟩
      have same : id ∈ day.habitat.ids := Directory.contains_iff_mem_keys.mp registered
      rw [alone, List.mem_singleton] at same
      subst same
      have room : (day.habitat.find? newt.id).all (fun o =>
          decide (HasRoom o.state.generation 1) && decide (HasRoom o.state.mutations 1)) := by
        decide +kernel
      rw [found] at room
      exact ⟨rfl, by simpa using room⟩
    rw [alone, List.map_singleton, List.sum_singleton, once] at generations mutations
    constructor
    · refine generations fun id o found => ?_
      obtain ⟨rfl, room, -⟩ := young id o found
      rwa [once]
    · refine mutations fun id o found => ?_
      obtain ⟨rfl, -, room⟩ := young id o found
      rwa [once]

/-- The newt in its last generation. -/
def venerable : Organism :=
  { eager with state.generation := 0xffffffffffffffff }

/-- The venerable newt evolves, and all generations together are less than before. -/
theorem not_accounted_venerable :
    let nest := (wasteland.registered venerable).2
    let evolved := nest.having ⟨0, 0⟩ (.evolve newt.id)
    (∃ exchanges, Course wasteland exchanges nest) ∧
      (∃ stretch, Course nest stretch evolved ∧ ∀ x ∈ stretch, x.request.IsCycle) ∧
      evolved.habitat.counters.evolutions = nest.habitat.counters.evolutions + 1 ∧
      evolved.habitat.generations ≠ nest.habitat.generations + 1 := by
  intro nest evolved
  refine ⟨⟨_, Course.start.step (wasteland.serves_asked ⟨0, 0⟩ (.register venerable))⟩,
    ⟨_, Course.start.step (nest.serves_asked ⟨0, 0⟩ (.evolve newt.id)),
      List.forall_mem_singleton.mpr trivial⟩, ?_, ?_⟩
  · decide +kernel
  · decide +kernel

end Ecosystem

end Vivarium
