import Vivarium.Proofs.Ecosystem.Identity

/-!
# A cycle of all as cycles of each

A tick walks once through the residents and hands on one random stream and one report, which
is recorded in the end.  Cycles of single organisms look each of them up, put it back, and
record what they came to one by one.  If they are asked for in ascending order of the ids,
nothing tells the two apart but the count of cycles.

The order is all that matters, since each organism draws from the stream where the one before
it has left off.  An organism that is put back does not move, so whoever is still to come
stands behind it as in the beginning.

Main definitions:

* `Habitat.sweep`, `Roster.sweep`: cycles of single organisms, one after the other;
* `Exchange.sweep`: the requests for them;
* `Habitat.countCycle`: one more cycle of all, on the counter alone.

Main statements:

* `Habitat.sweep_of_append`: what the cycles of some residents come to;
* `Roster.Keeps.unique`: a habitat has one roster;
* `Ecosystem.tick_eq_sweep`: a tick and a sweep agree.
-/

namespace Vivarium

/-- Outcomes are recorded one by one or all at once. -/
theorem HabitatCounters.record_add (counters : HabitatCounters) (report : TickReport)
    (outcome : CycleOutcome) :
    (counters.record report).record (TickReport.empty.add outcome) =
      counters.record (report.add outcome) := by
  cases outcome <;>
  · simp only [record, TickReport.add, TickReport.empty, HabitatCounters.mk.injEq]
    refine ⟨trivial, ?_, ?_, ?_, ?_⟩ <;> omega

namespace Habitat

/-- The habitat after one cycle of each organism under some ids, one after the other. -/
def sweep (h : Habitat) (now : Instant) (ids : List OrganismId) : Except HabitatFault Habitat :=
  ids.foldlM (fun h id => h.execute id now) h

/-- The habitat with one more cycle of all on the counter. -/
def countCycle (h : Habitat) : Habitat :=
  { h with counters := { h.counters with cycles := h.counters.cycles + 1 } }

variable {h swept : Habitat} {now : Instant} {id : OrganismId}

theorem sweep_cons (h : Habitat) (now : Instant) (id : OrganismId) (rest : List OrganismId) :
    h.sweep now (id :: rest) = (do let later ← h.execute id now; later.sweep now rest) := rfl

theorem visit_of_run {config : HabitatConfig} {r cycled : Resident} {outcome : CycleOutcome}
    {rng later : Rng} (drawn : (r.cycle config now).run rng = ((cycled, outcome), later))
    (report : TickReport) :
    visit config now id r (rng, report) = (cycled, (later, report.add outcome)) := by
  unfold visit
  rw [drawn]

/-- A cycle of one resident leaves all of them where they stand. -/
theorem entries_afterCycle {r : Resident} {before after : List (OrganismId × Resident)}
    (stands : h.residents.entries = before ++ (id, r) :: after) (cycled : Resident)
    (outcome : CycleOutcome) (rng : Rng) :
    (h.afterCycle id cycled outcome rng).residents.entries = before ++ (id, cycled) :: after :=
  Directory.entries_insert_of_append Uuid.lt_irrefl stands cycled

/-- Cycles of the residents from some place on, one after the other, are a walk through them.
What the cycles before have come to is recorded already. -/
theorem sweep_of_append (now : Instant) {before after : List (OrganismId × Resident)}
    {counters : HabitatCounters} {report : TickReport}
    (stands : h.residents.entries = before ++ after)
    (recorded : h.counters = counters.record report) :
    let walked := Directory.traverseEntries (visit h.config now) after (h.rng, report)
    ∃ residents, residents.entries = before ++ walked.1 ∧
      h.sweep now (after.map (·.1)) = .ok
        { h with
          residents := residents
          rng := walked.2.1
          counters := counters.record walked.2.2 } := by
  induction after generalizing h before report with
  | nil =>
      refine ⟨h.residents, stands, ?_⟩
      show Except.ok h = .ok { h with counters := counters.record report }
      rw [← recorded]
  | cons entry rest inductionHypothesis =>
      obtain ⟨id, r⟩ := entry
      generalize drawn : (r.cycle h.config now).run h.rng = result
      obtain ⟨⟨cycled, outcome⟩, rng⟩ := result
      have listed : (id, r) ∈ h.residents.entries := by
        rw [stands]
        exact List.mem_append_right before List.mem_cons_self
      have found := Directory.find?_eq_some_of_mem Uuid.lt_irrefl listed
      have moved := entries_afterCycle stands cycled outcome rng
      rw [List.append_cons] at moved
      have counted : (h.afterCycle id cycled outcome rng).counters =
          counters.record (report.add outcome) := by
        rw [← counters.record_add, ← recorded]
        rfl
      obtain ⟨residents, entries, run⟩ := inductionHypothesis moved counted
      simp only [Directory.traverseEntries, visit_of_run drawn]
      refine ⟨residents, entries.trans (List.append_assoc _ _ _), ?_⟩
      rw [List.map_cons, sweep_cons, execute_of_find? found drawn]
      exact run

/-- A cycle of all is a sweep through all ids in ascending order, with one more cycle on the
counter.  No id is missing. -/
theorem sweep_ids (h : Habitat) (now : Instant) :
    ∃ swept, h.sweep now h.ids = .ok swept ∧ swept.counters.cycles = h.counters.cycles ∧
      (h.tick now).2 = swept.countCycle := by
  have stands : h.residents.entries = [] ++ h.residents.entries := rfl
  have recorded : h.counters = h.counters.record TickReport.empty := rfl
  obtain ⟨residents, entries, run⟩ := sweep_of_append now stands recorded
  refine ⟨_, run, rfl, ?_⟩
  obtain rfl : residents = (h.tick now).2.residents := Directory.ext entries
  rfl

end Habitat

namespace Roster

/-- The roster after one cycle of each organism under some ids, one after the other.  Each
cycle draws from the stream as the habitat's own cycle has left it. -/
def sweep (s : Roster) (h : Habitat) (now : Instant) : List OrganismId → Roster
  | [] => s
  | id :: rest =>
      match h.execute id now with
      | .ok later => (s.execute h.config now h.rng id).sweep later now rest
      | .error _ => s.sweep h now rest

namespace Keeps

variable {s other : Roster} {h swept : Habitat} {now : Instant} {ids : List OrganismId}

/-- A habitat has one roster. -/
theorem unique (keeps : s.Keeps h) (keepsToo : other.Keeps h) : s = other := by
  obtain ⟨organisms, resting⟩ := s
  obtain ⟨otherOrganisms, otherResting⟩ := other
  congr
  · refine Directory.ext_of_find? Uuid.lt_irrefl ?_
    intro id
    exact (keeps.find? id).trans (keepsToo.find? id).symm
  · ext id
    exact (keeps.isResting id).trans (keepsToo.isResting id).symm

theorem sweep (keeps : s.Keeps h) (run : h.sweep now ids = .ok swept) :
    (s.sweep h now ids).Keeps swept := by
  induction ids generalizing s h with
  | nil =>
      cases run
      exact keeps
  | cons id rest inductionHypothesis =>
      rw [Habitat.sweep_cons] at run
      obtain ⟨later, executed, run⟩ := bind_eq_ok.mp run
      rw [Roster.sweep, executed]
      obtain ⟨r, cycled, outcome, rng, found, drawn, rfl⟩ := Habitat.of_execute executed
      exact inductionHypothesis ((keeps.execute found drawn).of_residents rfl) run

end Keeps

end Roster

/-- The requests for one cycle of each organism under some ids, which all succeed. -/
def Exchange.sweep (now : Instant) (ids : List OrganismId) : List Exchange :=
  ids.map fun id => Exchange.granted now (.execute id) ()

namespace Ecosystem

variable {first : Ecosystem} {now : Instant}

/-- A sweep through a habitat is the course of the requests for it. -/
theorem Course.sweep {exchanges : List Exchange} {h swept : Habitat} {n : Nursery}
    {supply : IdSupply} {ids : List OrganismId} (course : Course first exchanges ⟨h, n, supply⟩)
    (run : h.sweep now ids = .ok swept) :
    Course first (exchanges ++ Exchange.sweep now ids) ⟨swept, n, supply⟩ := by
  induction ids generalizing exchanges h with
  | nil =>
      cases run
      rw [Exchange.sweep, List.map_nil, List.append_nil]
      exact course
  | cons id rest inductionHypothesis =>
      rw [Habitat.sweep_cons] at run
      obtain ⟨later, executed, run⟩ := bind_eq_ok.mp run
      obtain ⟨r, cycled, outcome, rng, found, drawn, rfl⟩ := Habitat.of_execute executed
      have served : (⟨h, n, supply⟩ : Ecosystem).Serves (Exchange.granted now (.execute id) ())
          ⟨h.afterCycle id cycled outcome rng, n, supply⟩ :=
        serves_of_effect (.execute found drawn)
      rw [Exchange.sweep, List.map_cons, List.append_cons]
      exact inductionHypothesis (course.step served) run

/-- **A tick and a sweep agree.**  Asked for one cycle of each registered organism in ascending
order of the ids, all at the same time, an ecosystem comes to what a tick makes of it, except
that the tick counts a cycle more.  Whoever rests after the one is on the list of those who
rest after the other. -/
theorem tick_eq_sweep (e : Ecosystem) (now : Instant) :
    ∃ swept : Habitat,
      Course e (Exchange.sweep now e.habitat.ids) { e with habitat := swept } ∧
      e.Serves (Exchange.granted now .tick (e.habitat.tick now).1)
        { e with habitat := swept.countCycle } ∧
      swept.counters.cycles = e.habitat.counters.cycles ∧
      ∀ s : Roster, s.Keeps e.habitat →
        s.sweep e.habitat now e.habitat.ids = s.serve e now .tick ∧
          (s.serve e now .tick).Keeps swept := by
  obtain ⟨swept, run, counted, same⟩ := e.habitat.sweep_ids now
  have ticked : e.Effect now .tick _ _ := Effect.tick
  rw [same] at ticked
  refine ⟨swept, Course.start.sweep run, serves_of_effect ticked, counted, ?_⟩
  intro s keeps
  have kept : (s.serve e now .tick).Keeps swept := by
    have afterTick := keeps.tick now
    rw [same] at afterTick
    exact afterTick.of_residents rfl
  exact ⟨(keeps.sweep run).unique kept, kept⟩

/-- Of two newts in a lair the weary one rests and the other one ticks, in a tick as in a
sweep. -/
theorem tick_eq_sweep_lair :
    let lair := ((wasteland.registered weary).2.registered newt).2
    ∃ s : Roster, s.Keeps lair.habitat ∧ lair.habitat.ids.length = 2 ∧
      s.sweep lair.habitat ⟨0, 0⟩ lair.habitat.ids = s.serve lair ⟨0, 0⟩ .tick ∧
      (s.serve lair ⟨0, 0⟩ .tick).resting = {weary.id} := by
  intro lair
  have founded : Accompanied 100 wasteland Roster.empty :=
    Accompanied.founded _ _ _ _ (IdSupply.numbered_distinct (by decide))
  have arrived := founded.after ⟨0, 0⟩ (Effect.register weary rfl) trivial
    (List.forall_mem_singleton.mpr newt_not_pending) (by decide +kernel)
  have unlike := IdSupply.not_pending_of_advances
    (Habitat.enroll_advances wasteland.habitat _ weary) newt_not_pending
  have joined := arrived.after ⟨0, 0⟩ (Effect.register newt rfl) trivial
    (List.forall_mem_singleton.mpr unlike) (by decide +kernel)
  obtain ⟨-, keeps⟩ := joined.keeps
  obtain ⟨swept, -, -, -, agrees⟩ := tick_eq_sweep lair ⟨0, 0⟩
  refine ⟨_, keeps, by decide +kernel, (agrees _ keeps).1, ?_⟩
  decide +kernel

end Ecosystem

end Vivarium
