import Vivarium.Proofs.Ecosystem.CycleLog
import Vivarium.Proofs.Ecosystem.Heredity
import Vivarium.Proofs.Organism.Recovery

/-!
# Failing once

A corrupt organism fails in the first cycle in which it does not rest, if it fails at all.
While it rests, and when a step of evolution is forced on it, it may stay as corrupt as it
came; but its first tick, well or not, leaves it fit, and whatever happens to it from then on
as long as it stays keeps it so.

Main definitions:

* `Resident.FailsOnce`: what the records of a resident say about its failures;
* `Ecosystem.Stayed`: an organism stays registered, with the records of all cycles.

Main statements:

* `Resident.Lives.failsOnce`: a resident that was normal fails once at most;
* `Ecosystem.fails_at_most_once`: so does an organism while it stays.
-/

namespace Vivarium

namespace CycleRecord

variable {config : HabitatConfig} {record : CycleRecord}

/-- Who fails was not fit, and is whole afterwards. -/
theorem Ticked.of_failed (ticked : record.Ticked config) (failed : record.outcome = .failed) :
    ¬record.before.organism.IsFit ∧ record.after.organism.IsWhole := by
  obtain ⟨fed, evolved, ran, fails, same⟩ := ticked.organism
  obtain rfl : evolved = none := fails.mp failed
  rw [same]
  exact ⟨Organism.not_isFit_of_yields_tick ⟨record.drawn, congrArg Prod.fst ran⟩,
    fed.isWhole_recover config⟩

/-- Who ticks and does not fail is fit afterwards, and whole if it was so before. -/
theorem Ticked.of_succeeded (ticked : record.Ticked config)
    (succeeded : record.outcome ≠ .failed) :
    record.after.organism.IsFit ∧
      (record.before.organism.IsWhole → record.after.organism.IsWhole) := by
  obtain ⟨fed, evolved, ran, fails, same⟩ := ticked.organism
  cases evolved with
  | none => exact absurd (fails.mpr rfl) succeeded
  | some evolves =>
      have possible : (record.before.organism.tick config record.now).Yields
          (fed, some evolves) := ⟨record.drawn, congrArg Prod.fst ran⟩
      rw [same]
      exact ⟨Organism.isFit_of_yields_tick possible,
        fun whole => Organism.isWhole_of_yields_tick whole possible⟩

end CycleRecord

namespace Resident

/-- The records of a resident and how it is in the end. -/
structure FailsOnce (own : List CycleRecord) (later : Resident) : Prop where
  normal : later.organism.IsNormal
  /-- A tick leaves it fit for good. -/
  fit : (∃ record ∈ own, record.outcome.ticks = true) → later.organism.IsFit
  /-- A failure leaves it whole, at once and for good, -/
  recovered : ∀ record ∈ own, record.outcome = .failed → record.after.organism.IsWhole
  whole : (∃ record ∈ own, record.outcome = .failed) → later.organism.IsWhole
  /-- and comes after nothing but rest. -/
  first : own.Pairwise fun earlier record =>
    record.outcome = .failed → earlier.outcome.rests = true

namespace FailsOnce

variable {own : List CycleRecord} {r later : Resident} {record : CycleRecord}

theorem start (normal : r.organism.IsNormal) : FailsOnce [] r where
  normal := normal
  fit ticked := by
    obtain ⟨_, member, -⟩ := ticked
    cases member
  recovered := List.forall_mem_nil _
  whole failed := by
    obtain ⟨_, member, -⟩ := failed
    cases member
  first := List.Pairwise.nil

theorem evolved {now : Instant} {evolved : Organism} {outcome : Option Mutation.Outcome}
    (before : FailsOnce own r) (drawn : (r.organism.evolve now).Yields (evolved, outcome)) :
    FailsOnce own { r with organism := evolved } where
  normal := Organism.isNormal_of_yields_evolve before.normal drawn
  fit ticked := Organism.isFit_of_yields_evolve (before.fit ticked) drawn
  recovered := before.recovered
  whole failed := Organism.isWhole_of_yields_evolve (before.whole failed) drawn
  first := before.first

/-- A cycle that does not fail leaves fit who has ticked in it or was fit before. -/
theorem passed (before : FailsOnce own record.before) (sound : record.outcome ≠ .failed)
    (normal : record.after.organism.IsNormal)
    (fit : record.outcome.ticks = true ∨ record.before.organism.IsFit →
      record.after.organism.IsFit)
    (whole : record.before.organism.IsWhole → record.after.organism.IsWhole) :
    FailsOnce (own ++ [record]) record.after where
  normal := normal
  fit := by
    rintro ⟨other, member, ticks⟩
    rcases List.mem_append.mp member with earlier | last
    · exact fit (.inr (before.fit ⟨other, earlier, ticks⟩))
    · rw [List.mem_singleton.mp last] at ticks
      exact fit (.inl ticks)
  recovered := List.forall_mem_append.mpr ⟨before.recovered,
    List.forall_mem_singleton.mpr fun failed => absurd failed sound⟩
  whole := by
    rintro ⟨other, member, failed⟩
    rcases List.mem_append.mp member with earlier | last
    · exact whole (before.whole ⟨other, earlier, failed⟩)
    · rw [List.mem_singleton.mp last] at failed
      exact absurd failed sound
  first := by
    refine List.pairwise_append.mpr ⟨before.first, List.pairwise_singleton _ _, ?_⟩
    intro _ _ other last failed
    rw [List.mem_singleton.mp last] at failed
    exact absurd failed sound

theorem rested {config : HabitatConfig} (before : FailsOnce own record.before)
    (rested : record.Rested config) : FailsOnce (own ++ [record]) record.after := by
  have awake : record.outcome.ticks = false := by
    rw [CycleOutcome.ticks_eq_not_rests, rested.outcome]
    rfl
  have same : record.after.organism = record.before.organism.regenerate config := rested.organism
  refine before.passed ?_ ?_ ?_ ?_
  · intro failed
    rw [failed] at awake
    cases awake
  · rw [same]
    exact Organism.isNormal_regenerate before.normal config
  · rintro (ticks | fit)
    · rw [awake] at ticks
      cases ticks
    · rw [same]
      exact Organism.isFit_regenerate fit config
  · rw [same]
    exact fun whole => Organism.isWhole_regenerate whole config

theorem ticked {config : HabitatConfig} (before : FailsOnce own record.before)
    (ticked : record.Ticked config) : FailsOnce (own ++ [record]) record.after := by
  by_cases failed : record.outcome = .failed
  · obtain ⟨unfit, whole⟩ := ticked.of_failed failed
    refine ⟨whole.normal, fun _ => whole.isFit, ?_, fun _ => whole, ?_⟩
    · exact List.forall_mem_append.mpr ⟨before.recovered,
        List.forall_mem_singleton.mpr fun _ => whole⟩
    · -- whoever has ticked before is fit
      refine List.pairwise_append.mpr ⟨before.first, List.pairwise_singleton _ _, ?_⟩
      intro earlier member _ _ _
      by_contra restless
      refine unfit (before.fit ⟨earlier, member, ?_⟩)
      rw [CycleOutcome.ticks_eq_not_rests, Bool.not_eq_true', ← Bool.not_eq_true]
      exact restless
  · obtain ⟨fit, whole⟩ := ticked.of_succeeded failed
    exact before.passed failed fit.normal (fun _ => fit) whole

/-- Of records of which a failed one follows nothing but rest, one has failed at most. -/
theorem countP_le_one (once : FailsOnce own later) :
    own.countP (·.outcome = .failed) ≤ 1 := by
  have first := once.first
  clear once
  induction own with
  | nil => exact Nat.zero_le 1
  | cons record rest inductionHypothesis =>
      obtain ⟨here, later⟩ := List.pairwise_cons.mp first
      by_cases failed : record.outcome = .failed
      · have none : rest.countP (·.outcome = .failed) = 0 := by
          refine List.countP_eq_zero.mpr fun other member fails => ?_
          have rests := here other member (of_decide_eq_true fails)
          rw [failed] at rests
          cases rests
        rw [List.countP_cons, none, if_pos (decide_eq_true failed)]
      · rw [List.countP_cons, if_neg (by simp [failed])]
        exact inductionHypothesis later

end FailsOnce

/-- A resident that was normal fails once at most, in its first cycle that is not one of
rest. -/
theorem Lives.failsOnce {r later : Resident} {own : List CycleRecord} (lives : r.Lives own later)
    (normal : r.organism.IsNormal) : FailsOnce own later := by
  induction lives with
  | start => exact .start normal
  | evolved _ drawn inductionHypothesis => exact inductionHypothesis.evolved drawn
  | @cycled own config record _ run inductionHypothesis =>
      cases needs : record.before.needsRest config with
      | true => exact inductionHypothesis.rested (run.rested needs)
      | false => exact inductionHypothesis.ticked (run.ticked needs)

end Resident

namespace Ecosystem

/-- An organism stays registered under its id, with the records of all cycles meanwhile: it is
there after each request, and no request gives the id out anew or modifies an organism from
outside. -/
inductive Stayed (id : OrganismId) (first : Ecosystem) :
    List Exchange → List CycleRecord → Ecosystem → Prop where
  | start : Stayed id first [] [] first
  | step {exchanges : List Exchange} {records : List CycleRecord} {e later : Ecosystem}
      {x : Exchange} (before : Stayed id first exchanges records e)
      (faithful : ¬x.request.Modifies) (served : e.Serves x later)
      (registered : later.habitat.contains id = true)
      (fresh : ¬e.supply.Pending later.supply.issued id) :
      Stayed id first (exchanges ++ [x]) (records ++ e.log x.now x.request) later

namespace Stayed

variable {id : OrganismId} {e later : Ecosystem} {exchanges : List Exchange}
  {records : List CycleRecord} {r : Resident}

theorem logged (stayed : Stayed id e exchanges records later) :
    Logged e exchanges records later := by
  induction stayed with
  | start => exact .start
  | step _ _ served _ _ inductionHypothesis => exact inductionHypothesis.step served

/-- The life of an organism that stays is told by its records. -/
theorem lives (stayed : Stayed id e exchanges records later)
    (found : e.habitat.residents.find? id = some r) :
    ∃ changed, later.habitat.residents.find? id = some changed ∧
      r.Lives (CycleRecord.own id records) changed := by
  induction stayed with
  | start => exact ⟨r, found, .start⟩
  | step _ faithful served registered fresh inductionHypothesis =>
      obtain ⟨middle, there, lives⟩ := inductionHypothesis
      rw [CycleRecord.own_append]
      rcases of_served served with ⟨answer, -, effect⟩ | ⟨fault, -, failed, rfl⟩
      · obtain ⟨changed, last, livesOn⟩ := effect.lives faithful there registered fresh
        exact ⟨changed, last, lives.trans livesOn⟩
      · rw [log_of_error failed]
        exact ⟨middle, there, lives.trans .start⟩

end Stayed

/-- **A corrupt organism fails at most once.**  After a course in which no organism was
modified from outside, whatever vital values and contributions came in, let an organism stay
from some moment on.  Of the cycles that were counted meanwhile, at most one of its own has
failed, namely its first that was not one of rest; and after that its vital values lie in the
unit interval and all its contributions are finite, at once and as long as it stays. -/
theorem fails_at_most_once {c : Config} {habitatSeed nurserySeed : Nat} {supply : IdSupply}
    {past exchanges : List Exchange} {records : List CycleRecord} {e later : Ecosystem}
    {id : OrganismId} (course : Course (founded c habitatSeed nurserySeed supply) past e)
    (faithful : ∀ x ∈ past, ¬x.request.Modifies) (registered : e.habitat.contains id = true)
    (stayed : Stayed id e exchanges records later) :
    let own := CycleRecord.own id records
    (Logged e exchanges records later ∧
      later.habitat.counters.tickFailures =
        e.habitat.counters.tickFailures + records.countP (·.outcome = .failed)) ∧
    own.countP (·.outcome = .failed) ≤ 1 ∧
    (own.Pairwise fun earlier record =>
      record.outcome = .failed → earlier.outcome.rests = true) ∧
    (∀ record ∈ own, record.outcome = .failed →
      ∀ o, o = record.after.organism ∨ later.habitat.find? id = some o →
        (∀ value ∈ o.state.vitals, 0.0 ≤ value ∧ value ≤ 1.0) ∧
        ∀ gene ∈ o.genes, Number.isFinite gene.contribution = true) := by
  intro own
  obtain ⟨r, found⟩ := Directory.contains_iff.mp registered
  have common : e.All Organism.IsNormal :=
    course.hereditary Organism.isHereditary_isNormal (All.founded _ _ _ _)
      (fun x member => Request.leads_of_not_modifies (faithful x member)) fun _ _ _ _ => trivial
  have normal : r.organism.IsNormal :=
    common.habitat r (Directory.mem_values_of_find? found)
  obtain ⟨changed, last, lives⟩ := stayed.lives found
  have once := lives.failsOnce normal
  refine ⟨⟨stayed.logged, stayed.logged.counts.failures⟩, once.countP_le_one, once.first, ?_⟩
  intro record member failed o which
  have whole : o.IsWhole := by
    rcases which with rfl | there
    · exact once.recovered record member failed
    · rw [Habitat.find?, last] at there
      cases there
      exact once.whole ⟨record, member, failed⟩
  exact ⟨fun value among => (whole.normal.vitals value among).2, whole.genes⟩

/-- The newt with a gene that contributes no finite number. -/
def blighted : Organism :=
  { newt with genes := [⟨1, "gill", .sensor, "", true, Float.ofBits 0x7FF0000000000000⟩] }

/-- The blighted newt fails in a first cycle, and is whole after it. -/
theorem fails_at_most_once_blighted :
    let e := (wasteland.registered blighted).2
    let later := { e with habitat := (e.habitat.tick ⟨0, 0⟩).2 }
    later.habitat.counters.tickFailures = 1 ∧
      ∀ o, later.habitat.find? newt.id = some o →
        (∀ value ∈ o.state.vitals, 0.0 ≤ value ∧ value ≤ 1.0) ∧
        ∀ gene ∈ o.genes, Number.isFinite gene.contribution = true := by
  intro e later
  let registering := Exchange.granted ⟨0, 0⟩ (.register blighted) (wasteland.registered blighted).1
  have course : Course wasteland [registering] e :=
    Course.start.step (serves_of_effect (Effect.register blighted rfl))
  have faithful : ∀ x ∈ [registering], ¬x.request.Modifies :=
    List.forall_mem_singleton.mpr not_false
  have unasked : ¬e.supply.Pending later.supply.issued newt.id := by
    rintro ⟨n, issued, below, -⟩
    exact Nat.lt_irrefl _ (Nat.lt_of_le_of_lt issued below)
  have ticked : e.Serves (Exchange.granted ⟨0, 0⟩ .tick (e.habitat.tick ⟨0, 0⟩).1) later :=
    serves_of_effect Effect.tick
  have stayed : Stayed newt.id e _ ([] ++ e.habitat.tickLog ⟨0, 0⟩) later :=
    Stayed.start.step (by exact not_false) ticked (by decide +kernel) unasked
  obtain ⟨⟨-, counted⟩, -, -, recovered⟩ :=
    fails_at_most_once course faithful (by decide +kernel) stayed
  refine ⟨counted.trans (by decide +kernel), fun o found => ?_⟩
  obtain ⟨record, member, failed⟩ : ∃ record ∈ CycleRecord.own newt.id
      ([] ++ e.habitat.tickLog ⟨0, 0⟩), record.outcome = .failed := by
    decide +kernel
  exact recovered record member failed o (Or.inr found)

end Ecosystem

end Vivarium
