import Vivarium.Experiment
import Vivarium.Proofs.Breeding.Cycle
import Vivarium.Proofs.Ecosystem.Census

/-!
# Stages of an experiment

An experiment registers some organisms, lets them live for a number of ticks, harvests all of
them into a population, breeds it for a number of cycles, and releases whoever is in it then.

From the harvest on the ecosystem is no more than a population: the habitat is empty, and there
is no other population.  A cycle brings the population to the size of its strategy, so that only
the first one can change the size, and the release puts as many organisms into the habitat.

How many fresh ids a stage takes is only estimated.  This is what a supply has to have left, so
that everybody in the experiment gets an id of its own.

Main definitions:

* `Ecosystem.IsPopulation`: there is one population and nobody outside of it.

Main statements:

* `Ecosystem.Sound.registerAll_singleton`, `tickMany`, `harvest_everyone`,
  `IsPopulation.cycleMany`, `IsPopulation.releaseAll`: the stages.
-/

namespace Vivarium

/-- What one run of a target preserves, at whatever instant, runs at any instants preserve. -/
theorem Scheduler.stepAt_induction {α : Type} {target : Instant → α → α} (Holds : Nat → α → Prop)
    {a : α} (start : Holds 0 a)
    (step : ∀ now done a, Holds done a → Holds (done + 1) (target now a))
    (instants : List Instant) (s : Scheduler) :
    Holds instants.length (Scheduler.stepAt target instants s a).2 := by
  have onward : ∀ done a s, Holds done a →
      Holds (done + instants.length) (Scheduler.stepAt target instants s a).2 := by
    induction instants with
    | nil => exact fun _ _ _ holds => holds
    | cons now rest inductionHypothesis =>
        intro done a s holds
        have later := inductionHypothesis (done + 1) (target now a) { s with ticks := s.ticks + 1 }
          (step now done a holds)
        rwa [Nat.add_right_comm] at later
  have reached := onward 0 a s start
  rwa [Nat.zero_add] at reached

/-! ## Estimates -/

theorem Habitat.issued_enroll_le (h : Habitat) (supply : IdSupply) (o : Organism) :
    (h.enroll supply o).2.2.issued ≤ supply.issued + 1 := by
  obtain ⟨settled, later, enters, enrolled⟩ := h.enroll_enters supply o
  rw [enrolled]
  exact enters.issued_le

theorem issued_releaseEach_le (h : Habitat) (p : Population) (supply : IdSupply)
    (ids : List OrganismId) :
    (Ecosystem.releaseEach h p supply ids).2.2.2.issued ≤ supply.issued + ids.length := by
  induction ids generalizing h p supply with
  | nil => exact Nat.le_refl _
  | cons id rest inductionHypothesis =>
      unfold Ecosystem.releaseEach
      cases p.take? id with
      | none => exact Nat.le_trans (inductionHypothesis h p supply) (Nat.le_succ _)
      | some taken =>
          let enrolled := h.enroll supply taken.1
          calc (Ecosystem.releaseEach enrolled.2.1 taken.2 enrolled.2.2 rest).2.2.2.issued
            _ ≤ enrolled.2.2.issued + rest.length :=
                inductionHypothesis enrolled.2.1 taken.2 enrolled.2.2
            _ ≤ supply.issued + 1 + rest.length :=
                Nat.add_le_add_right (h.issued_enroll_le supply _) _
            _ = supply.issued + (id :: rest).length := by rw [List.length_cons]; omega

namespace Ecosystem

variable {e : Ecosystem} {limit size : Nat} {population : String} {strategy : Strategy}
  {ids : List OrganismId}

/-! ## Registration and ticks -/

/-- Ticks, as a scheduler runs them. -/
theorem Sound.tickMany (sound : e.Sound limit) (room : e.supply.issued ≤ limit)
    (instants : List Instant) :
    let ticked := (e.tickMany instants).2
    (e.tickMany instants).1 = instants.length ∧ ticked.Sound limit ∧
      ticked.nursery = e.nursery ∧ ticked.supply = e.supply ∧
      ticked.habitat.ids = e.habitat.ids := by
  intro ticked
  refine ⟨?_, ?_⟩
  · have counted := Scheduler.ticks_stepAt tickOnce instants
      (Scheduler.stopped e.habitat.config.tickInterval) e
    exact counted.trans (Nat.zero_add instants.length)
  · refine Scheduler.stepAt_induction (fun _ (later : Ecosystem) =>
      later.Sound limit ∧ later.nursery = e.nursery ∧ later.supply = e.supply ∧
        later.habitat.ids = e.habitat.ids) ⟨sound, rfl, rfl, rfl⟩ ?_ instants _
    rintro now - reached ⟨sound, nursery, supply, kept⟩
    have performed : reached.perform now .tick =
        .ok ((reached.habitat.tick now).1, tickOnce now reached) := rfl
    refine ⟨?_, nursery, supply, ?_⟩
    · exact sound.perform (by exact not_false) (List.forall_mem_nil _) performed
        (by rw [← supply] at room; exact room)
    · rw [← kept]
      exact Directory.keys_traverseEntries _ _ _

/-! ## The population -/

/-- There is one population, of some size, and nobody outside of it.  The strategy and the
landscape of the configuration are known. -/
structure IsPopulation (e : Ecosystem) (population : String) (strategy : Strategy) (size : Nat) :
    Prop where
  deserted : e.habitat.residents = Directory.empty
  alone : ∃ p, e.nursery.populations = Directory.empty.insert population p ∧ p.size = size
  known : e.nursery.strategies.find? e.nursery.config.defaultStrategy = some strategy
  placed : e.nursery.landscapes.contains e.nursery.config.defaultLandscape = true

/-- A cycle brings the population to the size of the strategy. -/
theorem IsPopulation.runCycle (populated : e.IsPopulation population strategy size)
    (positive : 0 < size) (now : Instant) :
    ∃ reports nursery supply,
      e.nursery.runCycle e.supply now = .ok (reports, nursery, supply) ∧
        IsPopulation ⟨e.habitat, nursery, supply⟩ population strategy strategy.populationSize ∧
        supply.issued ≤ e.supply.issued + strategy.populationSize := by
  obtain ⟨p, alone, rfl⟩ := populated.alone
  obtain ⟨landscape, placed⟩ := Directory.contains_iff.mp populated.placed
  have known := populated.known
  have held : e.nursery.populations.find? population = some p := by
    rw [alone, Directory.find?_insert_self]
  have names : e.nursery.populationNames = [population] := by
    rw [Nursery.populationNames, alone]
    rfl
  let selected := select e.nursery.config strategy landscape now p e.nursery.rng e.supply
  obtain ⟨skipped, children, selection⟩ := select_isSelection e.nursery.config strategy landscape
    now e.nursery.rng e.supply (List.length_pos_iff.mp positive)
  have performed := performSelection_eq e.supply now known placed held
  have looked : e.nursery.strategy e.nursery.config.defaultStrategy = .ok strategy := by
    rw [Nursery.strategy, known]
  have all : e.nursery.selectAll e.supply e.nursery.config.defaultStrategy now [population] =
      .ok ([selected.report], e.nursery.withSelected population selected, selected.supply) :=
    bind_eq_ok.mpr ⟨_, performed, rfl⟩
  rw [← names] at all
  refine ⟨_, _, _, bind_eq_ok.mpr ⟨strategy, looked, bind_eq_ok.mpr ⟨_, all, rfl⟩⟩, ?_, ?_⟩
  · exact {
      deserted := populated.deserted
      alone := by
        refine ⟨selected.population, ?_, selection.size⟩
        show e.nursery.populations.insert population selected.population = _
        rw [alone, Directory.insert_insert String.lt_irrefl]
      known := known
      placed := populated.placed }
  · have bred : selected.report.offspring ≤ strategy.populationSize := by
      rw [← selection.counted.2, ← selection.counted.1]
      exact Nat.le_add_left _ _
    show selected.supply.issued ≤ _
    rw [skipped]
    exact Nat.add_le_add_left bred _

/-- The population of a first ecosystem after a number of cycles.  It is sound as long as the
supply lasts. -/
structure IsBred (first : Ecosystem) (limit : Nat) (population : String) (strategy : Strategy)
    (size done : Nat) (e : Ecosystem) : Prop where
  populated : e.IsPopulation population strategy
    (if done = 0 then size else strategy.populationSize)
  taken : e.supply.issued ≤ first.supply.issued + done * strategy.populationSize
  sound : first.supply.issued + done * strategy.populationSize ≤ limit → e.Sound limit

/-- One more cycle. -/
theorem IsBred.cycleOnce {first : Ecosystem} {done : Nat}
    (bred : IsBred first limit population strategy size done e) (positive : 0 < size)
    (sizeable : 0 < strategy.populationSize) (now : Instant) :
    IsBred first limit population strategy size (done + 1) (Ecosystem.cycleOnce now e) := by
  obtain ⟨populated, taken, sound⟩ := bred
  have occupied : 0 < if done = 0 then size else strategy.populationSize := by
    split <;> assumption
  obtain ⟨reports, nursery, supply, performed, after, estimate⟩ := populated.runCycle occupied now
  have cycled : Ecosystem.cycleOnce now e = ⟨e.habitat, nursery, supply⟩ := by
    unfold Ecosystem.cycleOnce
    rw [performed]
  have total : (done + 1) * strategy.populationSize =
      done * strategy.populationSize + strategy.populationSize := Nat.succ_mul _ _
  rw [cycled]
  refine ⟨after, ?_, ?_⟩
  · show supply.issued ≤ _
    omega
  · intro room
    have asked : e.perform now .runCycle = .ok (reports, ⟨e.habitat, nursery, supply⟩) :=
      perform_of_effect (.runCycle performed)
    have room : supply.issued ≤ limit := by omega
    exact (sound (by omega)).perform (by exact not_false) (List.forall_mem_nil _) asked room

/-- Cycles, as a scheduler runs them. -/
theorem IsPopulation.cycleMany (populated : e.IsPopulation population strategy size)
    (positive : 0 < size) (sizeable : 0 < strategy.populationSize) (sound : e.Sound limit)
    (instants : List Instant) :
    (e.cycleMany instants).1 = instants.length ∧
      IsBred e limit population strategy size instants.length (e.cycleMany instants).2 := by
  refine ⟨?_, ?_⟩
  · have counted := Scheduler.ticks_stepAt Ecosystem.cycleOnce instants
      (Scheduler.stopped e.nursery.config.cycleInterval) e
    exact counted.trans (Nat.zero_add instants.length)
  · have start : IsBred e limit population strategy size 0 e :=
      ⟨populated, Nat.le_add_right _ _, fun _ => sound⟩
    exact Scheduler.stepAt_induction (IsBred e limit population strategy size) start
      (fun now done reached bred => bred.cycleOnce positive sizeable now) instants _

/-- All of the population are released into the deserted habitat. -/
theorem IsPopulation.releaseAll (populated : e.IsPopulation population strategy size)
    (sound : e.Sound limit) (room : e.supply.issued + size ≤ limit) :
    ∃ released later, e.releaseAll population = .ok (released, later) ∧
      released.length = size ∧ (released.map (·.id)).Nodup ∧
      later.habitat.organisms.Perm released ∧ later.habitat.restingIds = [] ∧
      later.nursery.populations.find? population = none := by
  obtain ⟨p, alone, rfl⟩ := populated.alone
  have held : e.nursery.populations.find? population = some p := by
    rw [alone, Directory.find?_insert_self]
  have all : ∀ id ∈ p.ids, p.contains id = true :=
    fun id member => List.contains_iff_mem.mpr member
  have granted : e.perform ⟨0, 0⟩ (.releaseAll population) = .ok (e.disbanded population p) :=
    perform_of_effect (.releaseAll held)
  have performed : e.release population p.ids = .ok (e.released population p p.ids) :=
    release_eq_ok.mpr ⟨p, held, all, rfl⟩
  have estimate : (e.released population p p.ids).2.supply.issued ≤ limit := by
    have walked := issued_releaseEach_le e.habitat p e.supply p.ids
    rw [Population.ids, List.length_map] at walked
    exact Nat.le_trans walked room
  refine ⟨_, _, granted, ?_⟩
  generalize e.released population p p.ids = result at performed estimate ⊢
  obtain ⟨released, between⟩ := result
  obtain ⟨source, taken, release⟩ := sound.isRelease performed estimate
  obtain rfl : p = source := Option.some.inj (held.symm.trans release.held)
  have unlike : p.ids.Nodup := (sound.nursery population p held).ids
  refine ⟨?_, release.settlement.ids, ?_, ?_, ?_⟩
  · have listed := congrArg List.length release.listed
    rw [List.length_map, length_eraseDups_of_nodup unlike, Population.ids, List.length_map]
      at listed
    exact release.settlement.each.length_eq.symm.trans listed
  · have arrived := release.arrival.perm_organisms release.settlement.ids release.settlement.apart
    have nobody : e.habitat.organisms = [] := by
      rw [Habitat.organisms, populated.deserted]
      rfl
    rwa [nobody, List.append_nil] at arrived
  · have awake : ∀ entry ∈ between.habitat.residents.entries, ¬entry.2.resting = true := by
      intro entry member
      have found := Directory.find?_eq_some_of_mem Uuid.lt_irrefl member
      rw [release.arrival.residents, populated.deserted, Directory.find?_empty] at found
      split at found
      · rw [← Option.some.inj found]
        exact Bool.false_ne_true
      · cases found
    show (between.habitat.residents.entries.filter _).map _ = []
    rw [List.filter_eq_nil_iff.mpr awake, List.map_nil]
  · exact (Directory.find?_erase _ _ _).trans (if_pos rfl)

end Ecosystem

end Vivarium
