import Vivarium.Proofs.Ecosystem.Cycles
import Vivarium.Proofs.Habitat.CycleRecord

/-!
# Cycles on record

Requests to an ecosystem take organisms through cycles, and a course can be told with the
records of all of them.  What the habitat counts is counted on the records again.

An organism that stays registered is left alone by most requests.  It takes a step of
evolution when one is forced, and it goes through a cycle when one of its own is on record;
nothing else happens to it.  So its life is told by its own records, up to the steps of
evolution between them.

Main definitions:

* `Ecosystem.log`: the records of a request;
* `Ecosystem.Fate`: what a request makes of an organism that stays;
* `Ecosystem.Logged`: a course with the records of its cycles;
* `Resident.Lives`: cycles on record, and steps of evolution between them.

Main statements:

* `Ecosystem.Logged.counts`: what is counted over a course;
* `Ecosystem.Effect.fate`: a cycle, a step of evolution or nothing.
-/

namespace Vivarium

/-! ## Counts -/

/-- Between two states of the counters the cycles on record were counted. -/
structure HabitatCounters.Counts (log : List CycleRecord) (counters later : HabitatCounters) :
    Prop where
  ticks : later.organismTicks = counters.organismTicks + log.countP (·.outcome.ticks)
  failures : later.tickFailures = counters.tickFailures + log.countP (·.outcome = .failed)
  regenerations : later.regenerations = counters.regenerations + log.countP (·.outcome.rests)

namespace HabitatCounters.Counts

variable {counters middle later : HabitatCounters} {log more : List CycleRecord}

theorem of_eq (same : later = counters) : Counts [] counters later := by
  subst same
  exact ⟨rfl, rfl, rfl⟩

theorem append (before : Counts log counters middle) (behind : Counts more middle later) :
    Counts (log ++ more) counters later := by
  refine ⟨?_, ?_, ?_⟩
  · rw [behind.ticks, before.ticks, List.countP_append, Nat.add_assoc]
  · rw [behind.failures, before.failures, List.countP_append, Nat.add_assoc]
  · rw [behind.regenerations, before.regenerations, List.countP_append, Nat.add_assoc]

/-- The outcomes on record are counted with their report. -/
theorem record (counters : HabitatCounters) (log : List CycleRecord) :
    Counts log counters (counters.record (TickReport.empty.addAll log)) := by
  have ticks := TickReport.empty.addAll_ticked log
  have failures := TickReport.empty.addAll_failed log
  have regenerations := TickReport.empty.addAll_rests log
  simp only [TickReport.empty, Nat.zero_add] at ticks failures regenerations
  refine ⟨?_, ?_, ?_⟩
  · rw [← ticks]
    rfl
  · rw [← failures]
    rfl
  · rw [← regenerations]
    rfl

end HabitatCounters.Counts

/-! ## Lives of residents -/

/-- A resident has gone through the cycles on record, and through steps of evolution between
them. -/
inductive Resident.Lives (r : Resident) : List CycleRecord → Resident → Prop where
  | start : r.Lives [] r
  | evolved {own : List CycleRecord} {middle : Resident} {now : Instant} {evolved : Organism}
      {outcome : Option Mutation.Outcome} (before : r.Lives own middle)
      (drawn : (middle.organism.evolve now).Yields (evolved, outcome)) :
      r.Lives own { middle with organism := evolved }
  | cycled {own : List CycleRecord} {config : HabitatConfig} {record : CycleRecord}
      (before : r.Lives own record.before) (run : record.IsRun config) :
      r.Lives (own ++ [record]) record.after

namespace Resident.Lives

variable {r middle later : Resident} {own more : List CycleRecord}

theorem trans (before : r.Lives own middle) (behind : middle.Lives more later) :
    r.Lives (own ++ more) later := by
  induction behind with
  | start =>
      rw [List.append_nil]
      exact before
  | evolved _ drawn inductionHypothesis => exact inductionHypothesis.evolved drawn
  | cycled _ run inductionHypothesis =>
      rw [← List.append_assoc]
      exact inductionHypothesis.cycled run

end Resident.Lives

namespace Habitat

variable {h : Habitat} {supply : IdSupply} {id : OrganismId}

/-! ## Residents left alone -/

/-- Whoever comes to a habitat takes no registered id, if his fresh one is new. -/
theorem find?_enroll (o : Organism) (held : h.contains id = true)
    (fresh : ¬supply.Pending (h.enroll supply o).2.2.issued id) :
    (h.enroll supply o).2.1.residents.find? id = h.residents.find? id := by
  obtain ⟨settled, later, enters, enrolled⟩ := h.enroll_enters supply o
  rw [enrolled] at fresh ⊢
  refine Directory.find?_insert_of_ne _ _ ?_
  rintro rfl
  rcases enters with ⟨free, rfl, -⟩ | ⟨-, rfl, rfl⟩
  · exact free held
  · exact fresh (IdSupply.pending_next (Nat.lt_succ_self _))

/-- A release leaves the residents alone that were there, if the fresh ids are new. -/
theorem find?_releaseEach {p : Population} {ids : List OrganismId} (held : h.contains id = true)
    (fresh : ¬supply.Pending (Ecosystem.releaseEach h p supply ids).2.2.2.issued id) :
    (Ecosystem.releaseEach h p supply ids).2.1.residents.find? id = h.residents.find? id := by
  induction ids generalizing h p supply with
  | nil => rfl
  | cons first rest inductionHypothesis =>
      unfold Ecosystem.releaseEach at fresh ⊢
      cases taken : p.take? first with
      | none =>
          rw [taken] at fresh
          exact inductionHypothesis held fresh
      | some pair =>
          obtain ⟨o, left⟩ := pair
          rw [taken] at fresh
          dsimp only at fresh ⊢
          have advances := h.enroll_advances supply o
          have later := releaseEach_advances (h.enroll supply o).2.1 left
            (h.enroll supply o).2.2 rest
          have same := h.find?_enroll o held fun pending => fresh (pending.mono later.issued)
          have stillHeld : (h.enroll supply o).2.1.contains id = true := by
            rw [contains, Directory.contains, same]
            exact held
          exact (inductionHypothesis stillHeld
            (IdSupply.not_pending_of_advances advances fresh)).trans same

end Habitat

namespace Request

variable {α : Type}

/-- The request forces a step of evolution on the organism of an id. -/
def forces (id : OrganismId) : Request α → Bool
  | evolve key => key = id
  | _ => false

/-- The request puts a function from outside in charge of the organism of an id. -/
def modifies (id : OrganismId) : Request α → Bool
  | modify key _ => key = id
  | _ => false

theorem modifies_of_not_modifies {request : Request α} (faithful : ¬request.Modifies)
    (id : OrganismId) : request.modifies id = false := by
  cases request with
  | modify => exact absurd trivial faithful
  | _ => rfl

end Request

namespace Ecosystem

/-! ## One request -/

/-- The records of the cycles that a request takes organisms through. -/
def log {α : Type} (e : Ecosystem) (now : Instant) : Request α → List CycleRecord
  | .tick => e.habitat.tickLog now
  | .execute id => e.habitat.executionLog now id
  | _ => []

variable {e later : Ecosystem} {α : Type} {now : Instant} {request : Request α} {answer : α}

/-- A request that fails takes nobody through a cycle. -/
theorem log_of_error {fault : EcosystemFault} (failed : e.perform now request = .error fault) :
    e.log now request = [] := by
  cases request with
  | tick => cases failed
  | execute id =>
      cases found : e.habitat.residents.find? id with
      | none => rw [log, Habitat.executionLog, found, Option.map_none, Option.toList_none]
      | some r =>
          have executed : e.Effect now (.execute id) () _ := Effect.execute found rfl
          rw [perform_of_effect executed] at failed
          cases failed
  | _ => rfl

/-- What a request counts is on record. -/
theorem Effect.counts (effect : e.Effect now request answer later) :
    HabitatCounters.Counts (e.log now request) e.habitat.counters later.habitat.counters := by
  cases effect with
  | @execute id r cycled outcome rng found drawn =>
      rw [log, Habitat.executionLog_of_find? found, CycleRecord.take_of_run drawn]
      exact HabitatCounters.Counts.record e.habitat.counters [_]
  | tick =>
      have counted := HabitatCounters.Counts.record e.habitat.counters (e.habitat.tickLog now)
      rw [← (e.habitat.isChronicle_tick now).report] at counted
      exact ⟨counted.ticks, counted.failures, counted.regenerations⟩
  | evolve => exact ⟨rfl, rfl, rfl⟩
  | @harvest ids =>
      refine .of_eq ?_
      show (takeAll e.habitat ids).2.counters = e.habitat.counters
      rw [(takeAll_isTaking e.habitat ids).others]
  | release => exact .of_eq (counters_releaseEach _ _ _ _)
  | releaseAll => exact .of_eq (counters_releaseEach _ _ _ _)
  | register => exact .of_eq rfl
  | modify => exact .of_eq rfl
  | remove => exact .of_eq rfl
  | removeNothing => exact .of_eq rfl
  | shutdown => exact .of_eq rfl
  | registerStrategy => exact .of_eq rfl
  | registerLandscape => exact .of_eq rfl
  | createPopulation => exact .of_eq rfl
  | removePopulation => exact .of_eq rfl
  | performSelection => exact .of_eq rfl
  | runCycle => exact .of_eq rfl

/-- A habitat keeps the constants that it was founded with. -/
theorem Effect.config (effect : e.Effect now request answer later) :
    later.habitat.config = e.habitat.config := by
  cases effect with
  | @harvest ids =>
      show (takeAll e.habitat ids).2.config = e.habitat.config
      rw [(takeAll_isTaking e.habitat ids).others]
  | @release population ids source =>
      show (releaseEach e.habitat source e.supply ids).2.1.config = e.habitat.config
      rw [others_releaseEach]
  | @releaseAll population source =>
      show (releaseEach e.habitat source e.supply source.ids).2.1.config = e.habitat.config
      rw [others_releaseEach]
  | _ => rfl

/-- The cycles on record went as they are recorded, at the time of the request. -/
theorem isRun_of_mem_log {record : CycleRecord} (member : record ∈ e.log now request) :
    record.IsRun e.habitat.config ∧ record.now = now := by
  cases request with
  | tick =>
      exact ⟨(e.habitat.isChronicle_tick now).runs record member,
        Habitat.now_of_mem_walkLog member⟩
  | execute id =>
      obtain ⟨r, -, rfl⟩ := Option.map_eq_some_iff.mp (Option.mem_toList.mp member)
      exact ⟨CycleRecord.isRun_take _ _ _ _ _, rfl⟩
  | _ => cases member

variable {id : OrganismId} {r : Resident}

/-- What a request makes of a resident that stays where it is. -/
inductive Fate (e : Ecosystem) (now : Instant) (request : Request α) (id : OrganismId)
    (r : Resident) : Resident → Prop where
  | spared (own : CycleRecord.own id (e.log now request) = [])
      (unforced : request.forces id = false) : Fate e now request id r r
  | cycled {record : CycleRecord} (own : CycleRecord.own id (e.log now request) = [record])
      (unforced : request.forces id = false) (same : record.before = r) :
      Fate e now request id r record.after
  | evolved {evolved : Organism} {outcome : Option Mutation.Outcome} {rng : Rng}
      (own : CycleRecord.own id (e.log now request) = []) (forced : request.forces id = true)
      (drawn : (r.organism.evolve now).run e.habitat.rng = ((evolved, outcome), rng)) :
      Fate e now request id r { r with organism := evolved }

/-- An organism that stays where it is and is not modified from outside goes through the cycle on
record, has evolved, or was left alone. -/
theorem Effect.fate (effect : e.Effect now request answer later)
    (unmodified : request.modifies id = false)
    (found : e.habitat.residents.find? id = some r) (stays : later.habitat.contains id = true)
    (fresh : ¬e.supply.Pending later.supply.issued id) :
    ∃ changed, later.habitat.residents.find? id = some changed ∧
      e.Fate now request id r changed := by
  have held : e.habitat.contains id = true := Directory.contains_iff.mpr ⟨r, found⟩
  cases effect with
  | register newcomer =>
      exact ⟨r, (Habitat.find?_enroll newcomer held fresh).trans found, .spared rfl rfl⟩
  | @execute key s cycled outcome rng there drawn =>
      rcases Habitat.own_execution there drawn found with
        ⟨own, left⟩ | ⟨record, own, same, -, left⟩
      · exact ⟨r, left, .spared own rfl⟩
      · exact ⟨record.after, left, .cycled own rfl same⟩
  | @evolve key s evolved outcome rng there drawn =>
      by_cases here : key = id
      · subst here
        obtain rfl : r = s := Option.some.inj (found.symm.trans there)
        exact ⟨_, Directory.find?_insert_self _ _ _, .evolved rfl (decide_eq_true rfl) drawn⟩
      · refine ⟨r, ?_, .spared rfl (decide_eq_false here)⟩
        exact (Directory.find?_insert_of_ne _ _ (Ne.symm here)).trans found
  | modify f there =>
      have other : id ≠ _ := Ne.symm (of_decide_eq_false unmodified)
      exact ⟨r, (Directory.find?_insert_of_ne _ _ other).trans found, .spared rfl rfl⟩
  | @remove key s there =>
      refine ⟨r, ?_, .spared rfl rfl⟩
      by_cases here : id = key
      · -- the one who is removed does not stay
        rw [Habitat.contains, Directory.contains, Directory.find?_erase, if_pos here] at stays
        cases stays
      · show (e.habitat.residents.erase key).find? id = some r
        rw [Directory.find?_erase, if_neg here, found]
  | removeNothing => exact ⟨r, found, .spared rfl rfl⟩
  | tick =>
      obtain ⟨record, own, same, -, left⟩ := e.habitat.exists_own_tick found now
      exact ⟨record.after, left, .cycled own rfl same⟩
  | shutdown => exact ⟨r, found, .spared rfl rfl⟩
  | registerStrategy => exact ⟨r, found, .spared rfl rfl⟩
  | registerLandscape => exact ⟨r, found, .spared rfl rfl⟩
  | createPopulation => exact ⟨r, found, .spared rfl rfl⟩
  | removePopulation => exact ⟨r, found, .spared rfl rfl⟩
  | performSelection => exact ⟨r, found, .spared rfl rfl⟩
  | runCycle => exact ⟨r, found, .spared rfl rfl⟩
  | @harvest ids =>
      have taking := (takeAll_isTaking e.habitat ids).residents id
      by_cases moved : id ∈ ids
      · -- nor does one who is harvested
        rw [if_pos moved] at taking
        obtain ⟨s, there⟩ := Directory.contains_iff.mp stays
        cases taking.symm.trans there
      · rw [if_neg moved] at taking
        exact ⟨r, taking.trans found, .spared rfl rfl⟩
  | release => exact ⟨r, (Habitat.find?_releaseEach held fresh).trans found, .spared rfl rfl⟩
  | releaseAll => exact ⟨r, (Habitat.find?_releaseEach held fresh).trans found, .spared rfl rfl⟩

theorem Fate.lives {changed : Resident} (fate : e.Fate now request id r changed) :
    r.Lives (CycleRecord.own id (e.log now request)) changed := by
  cases fate with
  | spared own =>
      rw [own]
      exact .start
  | @cycled record own _ same =>
      have member : record ∈ CycleRecord.own id (e.log now request) := by
        rw [own]
        exact List.mem_singleton_self record
      have run := (isRun_of_mem_log (List.mem_filter.mp member).1).1
      rw [own]
      subst same
      exact Resident.Lives.start.cycled run
  | evolved own _ drawn =>
      rw [own]
      exact Resident.Lives.start.evolved ⟨e.habitat.rng, congrArg Prod.fst drawn⟩

/-- So its life is told by its records. -/
theorem Effect.lives (effect : e.Effect now request answer later) (faithful : ¬request.Modifies)
    (found : e.habitat.residents.find? id = some r) (stays : later.habitat.contains id = true)
    (fresh : ¬e.supply.Pending later.supply.issued id) :
    ∃ changed, later.habitat.residents.find? id = some changed ∧
      r.Lives (CycleRecord.own id (e.log now request)) changed := by
  obtain ⟨changed, last, fate⟩ :=
    effect.fate (Request.modifies_of_not_modifies faithful id) found stays fresh
  exact ⟨changed, last, fate.lives⟩

/-! ## Courses -/

/-- A course with the records of all cycles in it. -/
inductive Logged (first : Ecosystem) : List Exchange → List CycleRecord → Ecosystem → Prop where
  | start : Logged first [] [] first
  | step {exchanges : List Exchange} {log : List CycleRecord} {e later : Ecosystem} {x : Exchange}
      (before : Logged first exchanges log e) (served : e.Serves x later) :
      Logged first (exchanges ++ [x]) (log ++ e.log x.now x.request) later

namespace Logged

variable {first : Ecosystem} {exchanges : List Exchange} {records : List CycleRecord}

theorem course (logged : Logged first exchanges records e) : Course first exchanges e := by
  induction logged with
  | start => exact Course.start
  | step _ served inductionHypothesis => exact inductionHypothesis.step served

/-- Every course can be told with its records. -/
theorem of_course (course : Course first exchanges e) :
    ∃ records, Logged first exchanges records e := by
  induction course with
  | start => exact ⟨[], Logged.start⟩
  | step before served inductionHypothesis =>
      obtain ⟨records, logged⟩ := inductionHypothesis
      exact ⟨_, logged.step served⟩

/-- All cycles that a course counts are on record, and no others. -/
theorem counts (logged : Logged first exchanges records e) :
    HabitatCounters.Counts records first.habitat.counters e.habitat.counters := by
  induction logged with
  | start => exact .of_eq rfl
  | step before served inductionHypothesis =>
      refine inductionHypothesis.append ?_
      rcases of_served served with ⟨answer, -, effect⟩ | ⟨fault, -, failed, rfl⟩
      · exact effect.counts
      · rw [log_of_error failed]
        exact .of_eq rfl

theorem config (logged : Logged first exchanges records e) :
    e.habitat.config = first.habitat.config := by
  induction logged with
  | start => rfl
  | step before served inductionHypothesis =>
      rcases of_served served with ⟨answer, -, effect⟩ | ⟨fault, -, -, rfl⟩
      · exact effect.config.trans inductionHypothesis
      · exact inductionHypothesis

/-- All cycles of a course went as they are recorded, with the constants of its beginning. -/
theorem runs (logged : Logged first exchanges records e) :
    ∀ record ∈ records, record.IsRun first.habitat.config := by
  induction logged with
  | start => exact List.forall_mem_nil _
  | step before served inductionHypothesis =>
      refine List.forall_mem_append.mpr ⟨inductionHypothesis, fun record member => ?_⟩
      rw [← before.config]
      exact (isRun_of_mem_log member).1

end Logged

end Ecosystem

end Vivarium
