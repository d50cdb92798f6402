import Vivarium.Ecosystem

/-!
# Schedulers

A scheduler runs a target again and again.  A started scheduler runs it at every
multiple of its period until it is stopped; any scheduler can also be stepped by
hand, which does not move its schedule.  Time is what the caller lets pass.

Main definitions:

* `Scheduler`: period, whether it is running, steps so far, time passed;
* `step`, `stepAt`, `sleep`: the target by hand, and as time passes;
* `Ecosystem.tickOnce`, `Ecosystem.cycleOnce`: the targets of an ecosystem.
-/

namespace Vivarium

/-- A periodic run of some target. -/
structure Scheduler where
  period : Span
  isRunning : Bool
  ticks : Nat
  elapsedNanos : Nat
  deriving Repr, DecidableEq

namespace Scheduler

/-- A scheduler that only runs by hand. -/
def stopped (period : Span) : Scheduler := ⟨period, false, 0, 0⟩

/-- A scheduler that starts now. -/
def started (period : Span) : Scheduler := ⟨period, true, 0, 0⟩

/-- One run of the target. -/
def step (s : Scheduler) (target : α → α) (a : α) : Scheduler × α :=
  ({ s with ticks := s.ticks + 1 }, target a)

/-- A number of runs of the target. -/
def stepMany (target : α → α) : Nat → Scheduler → α → Scheduler × α
  | 0, s, a => (s, a)
  | count + 1, s, a =>
      let (s, a) := s.step target a
      stepMany target count s a

/-- A run of the target at each of some instants. -/
def stepAt (target : Instant → α → α) : List Instant → Scheduler → α → Scheduler × α
  | [], s, a => (s, a)
  | now :: rest, s, a =>
      let (s, a) := s.step (target now) a
      stepAt target rest s a

/-- The number of multiples of the period up to a time, behind its start. -/
def due (s : Scheduler) (elapsedNanos : Nat) : Nat := elapsedNanos / s.period.totalNanos

/-- Time passes, and the target runs at each multiple of the period on the way. -/
def sleep (s : Scheduler) (nanos : Nat) (target : α → α) (a : α) : Scheduler × α :=
  let later := s.elapsedNanos + nanos
  let runs := if s.isRunning then s.due later - s.due s.elapsedNanos else 0
  stepMany target runs { s with elapsedNanos := later } a

/-- The scheduler without further runs of its own.  Stopping twice is stopping. -/
def stop (s : Scheduler) : Scheduler := { s with isRunning := false }

theorem ticks_stepAt (target : Instant → α → α) (instants : List Instant) (s : Scheduler)
    (a : α) : (stepAt target instants s a).1.ticks = s.ticks + instants.length := by
  induction instants generalizing s a with
  | nil => rfl
  | cons now rest inductionHypothesis =>
      simp only [stepAt, inductionHypothesis, step, List.length_cons]
      omega

end Scheduler

namespace Ecosystem

/-- A cycle of the habitat, as the target of a scheduler. -/
def tickOnce (now : Instant) (e : Ecosystem) : Ecosystem :=
  { e with habitat := (e.habitat.tick now).2 }

/-- A cycle of the nursery, as the target of a scheduler.  A cycle that fails
leaves everything as it is. -/
def cycleOnce (now : Instant) (e : Ecosystem) : Ecosystem :=
  match e.nursery.runCycle e.supply now with
  | .ok (_, nursery, supply) => { e with nursery := nursery, supply := supply }
  | .error _ => e

end Ecosystem

end Vivarium
