import Vivarium.Experiment
import Vivarium.Proofs.Breeding.Cycle

/-!
# Counted cycles

A scheduler counts how often it has run its target, and a nursery counts the cycles that went
through.  A cycle that fails leaves no trace behind but the count of the scheduler.  Either all
cycles of a nursery go through or none does, so the two counts agree, or the nursery has counted
none of the cycles.

A configuration is checked without a look at the strategies and landscapes that there are, so
it can be in order and name one that is not among them.

Main definitions:

* `Ecosystem.cycledAt`: a scheduler that steps a nursery at some instants.

Main statements:

* `Ecosystem.cycleMany_eq`: breeding in cycles is such stepping;
* `Ecosystem.ticks_cycledAt`: both counts after any number of steps.
-/

namespace Vivarium

namespace Ecosystem

/-- A scheduler and its ecosystem after a step by hand at each of some instants. -/
def cycledAt (s : Scheduler) (e : Ecosystem) (instants : List Instant) : Scheduler × Ecosystem :=
  instants.foldl (fun reached now => reached.1.step (cycleOnce now) reached.2) (s, e)

/-- Breeding in cycles is stepping a new scheduler. -/
theorem cycleMany_eq (e : Ecosystem) (instants : List Instant) :
    e.cycleMany instants =
      let stepped := cycledAt (Scheduler.stopped e.nursery.config.cycleInterval) e instants
      (stepped.1.ticks, stepped.2) := by
  have stepped : ∀ (s : Scheduler) (e : Ecosystem),
      Scheduler.stepAt cycleOnce instants s e = cycledAt s e instants := by
    induction instants with
    | nil => exact fun _ _ => rfl
    | cons now rest inductionHypothesis => exact fun s e => inductionHypothesis _ _
  rw [← stepped]
  rfl

/-- A cycle that goes through is counted, and so will the next one be. -/
theorem cycleOnce_of_canCycle {e : Ecosystem} (able : e.nursery.CanCycle) (now : Instant) :
    (cycleOnce now e).nursery.CanCycle ∧
      (cycleOnce now e).nursery.counters.cycles = e.nursery.counters.cycles + 1 := by
  obtain ⟨⟨reports, nursery, supply⟩, performed⟩ :=
    (Nursery.canCycle_iff e.supply now).mp able
  unfold cycleOnce
  rw [performed]
  exact ⟨Nursery.canCycle_of_runCycle performed, Nursery.cycles_of_runCycle performed⟩

/-- A cycle that fails changes nothing. -/
theorem cycleOnce_of_not_canCycle {e : Ecosystem} (unable : ¬e.nursery.CanCycle)
    (now : Instant) : cycleOnce now e = e := by
  unfold cycleOnce
  cases performed : e.nursery.runCycle e.supply now with
  | error fault => rfl
  | ok result => exact absurd ((Nursery.canCycle_iff _ _).mpr ⟨result, performed⟩) unable

/-- **The count of a scheduler** is the number of its steps.  The nursery counts as many cycles
if it finds the strategy, and the landscape as far as it needs it.  If not, it counts none, and
nothing at all has changed. -/
theorem ticks_cycledAt (s : Scheduler) (e : Ecosystem) (instants : List Instant) :
    let stepped := cycledAt s e instants
    stepped.1.ticks = s.ticks + instants.length ∧
      stepped.2.nursery.counters.cycles = e.nursery.counters.cycles +
        (if e.nursery.CanCycle then instants.length else 0) ∧
      (¬e.nursery.CanCycle → stepped.2 = e) := by
  intro stepped
  induction instants generalizing s e with
  | nil => exact ⟨rfl, by rw [List.length_nil, ite_self]; rfl, fun _ => rfl⟩
  | cons now rest inductionHypothesis =>
      obtain ⟨ticks, cycles, unchanged⟩ :=
        inductionHypothesis (s.step (cycleOnce now) e).1 (cycleOnce now e)
      change stepped.1.ticks = s.ticks + 1 + rest.length at ticks
      change stepped.2.nursery.counters.cycles = _ at cycles
      change _ → stepped.2 = _ at unchanged
      refine ⟨by rw [ticks, List.length_cons, Nat.add_assoc, Nat.add_comm 1], ?_⟩
      by_cases able : e.nursery.CanCycle
      · obtain ⟨stillAble, once⟩ := cycleOnce_of_canCycle able now
        rw [if_pos stillAble, once] at cycles
        refine ⟨?_, absurd able⟩
        rw [cycles, if_pos able, List.length_cons, Nat.add_assoc, Nat.add_comm 1]
      · rw [cycleOnce_of_not_canCycle able now] at cycles unchanged
        rw [if_neg able] at cycles ⊢
        exact ⟨cycles, unchanged⟩

/-- A configuration that names a strategy which nobody knows. -/
def adrift : Config :=
  { Config.standard with nursery := { NurseryConfig.standard with defaultStrategy := "drift" } }

/-- The configuration is in order, and a scheduler counts cycles under it, which the nursery
does not. -/
theorem ticks_cycledAt_adrift :
    let e := founded adrift 1 2 IdSupply.numbered
    let stepped := cycledAt (Scheduler.stopped adrift.nursery.cycleInterval) e
      (List.replicate 3 ⟨0, 0⟩)
    adrift.fault? = none ∧ e.nursery.config = adrift.nursery ∧ stepped.1.ticks = 3 ∧
      stepped.2.nursery.counters.cycles = e.nursery.counters.cycles := by
  decide +kernel

end Ecosystem

end Vivarium
