import Vivarium.Proofs.Ecosystem.CycleLog

/-!
# Hysteresis of rest

Two things send an organism to rest, the mark of a resident and the floor of its energy, and
a third one lets it go again, the energy to resume.  What a cycle does is decided by its
beginning alone.  But the mark remembers: it is set by a cycle of rest that has not given
enough, and it goes only in a cycle that has.  So between the mark and the next tick there is
a cycle that gave enough, whatever the two thresholds are and whichever of the two ways to a
cycle was taken.

Main definitions:

* `Request.Cycles`: requests that take organisms through cycles and do nothing else;
* `Habitat.Turns`: a habitat before and after the cycles on record.

Main statements:

* `exists_resumed`: who rests does not tick before a cycle has given enough;
* `Ecosystem.Logged.turns`: what the records of a course say about it;
* `Ecosystem.rest_has_hysteresis`: all of it over a course.
-/

namespace Vivarium

/-! ## Records of one resident -/

/-- In the records of a resident that rests, a cycle has given enough before one is a tick. -/
theorem exists_resumed {config : HabitatConfig} {r changed : Resident} {tick : CycleRecord}
    {between rest : List CycleRecord}
    (linked : Linked CycleRecord.before CycleRecord.after r (between ++ tick :: rest) changed)
    (runs : ∀ record ∈ between ++ tick :: rest, record.IsRun config)
    (resting : r.resting = true) (ticks : tick.outcome.ticks = true) :
    ∃ record ∈ between, config.resumeEnergy ≤ record.after.organism.state.energy := by
  have needs {record : CycleRecord} (marked : record.before.resting = true) :
      record.before.needsRest config = true :=
    CycleRecord.needsRest_iff.mpr (Or.inl marked)
  induction between generalizing r with
  | nil =>
      -- the tick would have been a cycle of rest
      obtain ⟨rfl, -⟩ := linked
      have rested := (runs tick List.mem_cons_self).rested (needs resting)
      rw [CycleOutcome.ticks_eq_not_rests, rested.outcome] at ticks
      cases ticks
  | cons first others inductionHypothesis =>
      obtain ⟨rfl, linked⟩ := linked
      have rested := (runs first List.mem_cons_self).rested (needs resting)
      by_cases enough : config.resumeEnergy ≤ first.after.organism.state.energy
      · exact ⟨first, List.mem_cons_self, enough⟩
      · obtain ⟨record, member, resumes⟩ := inductionHypothesis linked
          (fun record member => runs record (List.mem_cons_of_mem _ member))
          (rested.resting.mpr enough)
        exact ⟨record, List.mem_cons_of_mem _ member, resumes⟩

/-! ## Turns -/

/-- The request takes organisms through cycles and does nothing else. -/
def Request.Cycles {α : Type} : Request α → Prop
  | .execute _ => True
  | .tick => True
  | _ => False

namespace Habitat

/-- A habitat before and after the cycles on record. -/
structure Turns (log : List CycleRecord) (h later : Habitat) : Prop where
  config : later.config = h.config
  runs : ∀ record ∈ log, record.IsRun h.config
  /-- Each cycle has drawn where the one before it had left off. -/
  stream : Linked CycleRecord.drawn CycleRecord.left h.rng log later.rng
  /-- Each resident has gone through its own cycles and nothing else, -/
  residents : ∀ {id r}, h.residents.find? id = some r →
    ∃ changed, later.residents.find? id = some changed ∧
      Linked CycleRecord.before CycleRecord.after r (CycleRecord.own id log) changed
  /-- and nobody else is on record or has come. -/
  strangers : ∀ {id}, h.residents.find? id = none →
    later.residents.find? id = none ∧ CycleRecord.own id log = []

namespace Turns

variable {h middle later : Habitat} {log more : List CycleRecord}

theorem refl (h : Habitat) : Turns [] h h :=
  ⟨rfl, List.forall_mem_nil _, rfl, fun {_ r} found => ⟨r, found, rfl⟩,
    fun missing => ⟨missing, rfl⟩⟩

theorem trans (before : Turns log h middle) (behind : Turns more middle later) :
    Turns (log ++ more) h later where
  config := behind.config.trans before.config
  runs := List.forall_mem_append.mpr ⟨before.runs, before.config ▸ behind.runs⟩
  stream := before.stream.append behind.stream
  residents {id r} found := by
    obtain ⟨between, there, linked⟩ := before.residents found
    obtain ⟨changed, last, linkedOn⟩ := behind.residents there
    rw [CycleRecord.own_append]
    exact ⟨changed, last, linked.append linkedOn⟩
  strangers {id} missing := by
    obtain ⟨still, own⟩ := before.strangers missing
    obtain ⟨last, ownBehind⟩ := behind.strangers still
    rw [CycleRecord.own_append, own, ownBehind]
    exact ⟨last, rfl⟩

end Turns

variable {h : Habitat} {id : OrganismId} {now : Instant}

theorem turns_tick (h : Habitat) (now : Instant) : Turns (h.tickLog now) h (h.tick now).2 where
  config := rfl
  runs := (h.isChronicle_tick now).runs
  stream := (h.isChronicle_tick now).stream
  residents {id r} found := by
    obtain ⟨record, own, rfl, -, left⟩ := h.exists_own_tick found now
    rw [own]
    exact ⟨record.after, left, .singleton record⟩
  strangers {id} missing := by
    obtain ⟨before, after, -, -, -⟩ := h.isChronicle_tick now
    have unlisted : ∀ record ∈ h.tickLog now, record.id ≠ id := by
      intro record member same
      have listed : (record.id, record.before) ∈ h.residents.entries := by
        rw [← before]
        exact List.mem_map_of_mem member
      rw [same] at listed
      rw [Directory.find?_eq_some_of_mem Uuid.lt_irrefl listed] at missing
      cases missing
    refine ⟨List.lookup_eq_none_iff.mpr fun entry member => ?_, CycleRecord.own_eq_nil unlisted⟩
    rw [← after] at member
    obtain ⟨record, among, rfl⟩ := List.mem_map.mp member
    exact bne_iff_ne.mpr (Ne.symm (unlisted record among))

theorem turns_execute {r cycled : Resident} {outcome : CycleOutcome} {rng : Rng}
    (found : h.residents.find? id = some r)
    (drawn : (r.cycle h.config now).run h.rng = ((cycled, outcome), rng)) :
    Turns (h.executionLog now id) h (h.afterCycle id cycled outcome rng) where
  config := rfl
  runs := by
    rw [executionLog_of_find? found]
    exact List.forall_mem_singleton.mpr (CycleRecord.isRun_take h.config now id r h.rng)
  stream := by
    rw [executionLog_of_find? found, CycleRecord.take_of_run drawn]
    exact ⟨rfl, rfl⟩
  residents there := by
    rcases own_execution found drawn there with ⟨own, left⟩ | ⟨record, own, rfl, -, left⟩
    · rw [own]
      exact ⟨_, left, rfl⟩
    · rw [own]
      exact ⟨record.after, left, .singleton record⟩
  strangers {other} missing := by
    have unlike : other ≠ id := by
      rintro rfl
      rw [found] at missing
      cases missing
    rw [executionLog_of_find? found, CycleRecord.own_cons_of_ne (Ne.symm unlike)]
    exact ⟨(Directory.find?_insert_of_ne _ _ unlike).trans missing, rfl⟩

end Habitat

namespace Ecosystem

variable {e later : Ecosystem} {exchanges : List Exchange} {records : List CycleRecord}

theorem Effect.turns {α : Type} {now : Instant} {request : Request α} {answer : α}
    (effect : e.Effect now request answer later) (cycles : request.Cycles) :
    Habitat.Turns (e.log now request) e.habitat later.habitat := by
  cases effect with
  | execute found drawn => exact Habitat.turns_execute found drawn
  | tick => exact Habitat.turns_tick e.habitat now
  | _ => exact absurd cycles not_false

/-- Over a course of cycles the habitat has turned by those on record. -/
theorem Logged.turns (logged : Logged e exchanges records later)
    (cycling : ∀ x ∈ exchanges, x.request.Cycles) :
    Habitat.Turns records e.habitat later.habitat := by
  induction logged with
  | start => exact .refl _
  | step before served inductionHypothesis =>
      obtain ⟨earlier, last⟩ := List.forall_mem_append.mp cycling
      refine (inductionHypothesis earlier).trans ?_
      rcases of_served served with ⟨answer, -, effect⟩ | ⟨fault, -, failed, rfl⟩
      · exact effect.turns (last _ List.mem_cons_self)
      · rw [log_of_error failed]
        exact .refl _

/-- **Rest has hysteresis.**  Over a course of nothing but cycles, an organism that is marked
or has no more energy than the floor at the start of its cycle rests in it: nothing is drawn,
nothing but its energy changes, and it is marked afterwards unless the energy is enough to
resume.  Any other organism ticks and is not marked afterwards.  The cycles on record are all
that was counted and drawn for, and all that has happened to the organisms; and between a
cycle that leaves an organism marked and its next tick there is one after which its energy was
enough to resume. -/
theorem rest_has_hysteresis (logged : Logged e exchanges records later)
    (cycling : ∀ x ∈ exchanges, x.request.Cycles) :
    let config := e.habitat.config
    (∀ record ∈ records,
      (record.before.resting = true ∨
          record.before.organism.state.energy ≤ config.energyFloor → record.Rested config) ∧
        (¬(record.before.resting = true ∨
          record.before.organism.state.energy ≤ config.energyFloor) → record.Ticked config)) ∧
    HabitatCounters.Counts records e.habitat.counters later.habitat.counters ∧
    Linked CycleRecord.drawn CycleRecord.left e.habitat.rng records later.habitat.rng ∧
    (∀ id, e.habitat.residents.find? id = none → CycleRecord.own id records = []) ∧
    ∀ id r, e.habitat.residents.find? id = some r →
      (∃ changed, later.habitat.residents.find? id = some changed ∧
        Linked CycleRecord.before CycleRecord.after r (CycleRecord.own id records) changed) ∧
      ∀ front entry between tick rest,
        CycleRecord.own id records = front ++ entry :: (between ++ tick :: rest) →
        entry.after.resting = true → tick.outcome.ticks = true →
        ∃ record ∈ between, config.resumeEnergy ≤ record.after.organism.state.energy := by
  intro config
  have turns := logged.turns cycling
  refine ⟨?_, logged.counts, turns.stream, fun id missing => (turns.strangers missing).2, ?_⟩
  · intro record member
    have run := turns.runs record member
    rw [← CycleRecord.needsRest_iff, Bool.not_eq_true]
    exact ⟨run.rested, run.ticked⟩
  · intro id r found
    obtain ⟨changed, left, linked⟩ := turns.residents found
    refine ⟨⟨changed, left, linked⟩, ?_⟩
    intro front entry between tick rest divided marked ticks
    rw [divided] at linked
    have behind := linked.behind
    refine exists_resumed behind (fun record member => turns.runs record ?_) marked ticks
    have among : record ∈ CycleRecord.own id records := by
      rw [divided]
      exact List.mem_append_right front (List.mem_cons_of_mem entry member)
    exact (List.mem_filter.mp among).1

/-- The weary newt rests in the first cycle, and when it is executed after that. -/
theorem rest_has_hysteresis_weary :
    let lair := (wasteland.registered weary).2
    let dusk := { lair with habitat := (lair.habitat.tick ⟨0, 0⟩).2 }
    (∀ record ∈ lair.habitat.tickLog ⟨0, 0⟩ ++ dusk.habitat.executionLog ⟨1, 0⟩ newt.id,
        record.Rested lair.habitat.config) ∧
      (lair.habitat.tickLog ⟨0, 0⟩ ++ dusk.habitat.executionLog ⟨1, 0⟩ newt.id).length = 2 := by
  intro lair dusk
  have ticked : lair.Serves (Exchange.granted ⟨0, 0⟩ .tick (lair.habitat.tick ⟨0, 0⟩).1) dusk :=
    serves_of_effect Effect.tick
  obtain ⟨r, found⟩ : ∃ r, dusk.habitat.residents.find? newt.id = some r :=
    Directory.contains_iff.mp (by decide +kernel)
  have executed : dusk.Serves (Exchange.granted ⟨1, 0⟩ (.execute newt.id) ()) _ :=
    serves_of_effect (.execute found rfl)
  have cycling : ∀ x ∈ [] ++ [Exchange.granted ⟨0, 0⟩ .tick (lair.habitat.tick ⟨0, 0⟩).1] ++
      [Exchange.granted ⟨1, 0⟩ (.execute newt.id) ()], x.request.Cycles := by
    intro x member
    simp only [List.nil_append, List.mem_append, List.mem_singleton] at member
    rcases member with rfl | rfl <;> exact trivial
  obtain ⟨each, -⟩ := rest_has_hysteresis ((Logged.start.step ticked).step executed) cycling
  refine ⟨fun record member => (each record member).1 ?_, by decide +kernel⟩
  have low : ∀ record ∈ lair.habitat.tickLog ⟨0, 0⟩ ++ dusk.habitat.executionLog ⟨1, 0⟩ newt.id,
      record.before.organism.state.energy ≤ lair.habitat.config.energyFloor := by
    decide +kernel
  exact Or.inr (low record member)

end Ecosystem

end Vivarium
