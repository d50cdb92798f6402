import Mathlib.Data.List.DropRight
import Vivarium.Breeding.Event

/-!
# What a log holds

A log forgets its oldest events, but not how many there were.  What it holds is described by
all the events that were ever pushed: the latest of them, as many as the capacity allows.

Main definitions:

* `EventLog.Holds`: the log after a past.

Main statements:

* `EventLog.Holds.pushAll`: the past goes on;
* `EventLog.Holds.recent`: the latest events;
* `EventLog.eq_of_pushAll`: what is pushed can be told from the logs that it makes.
-/

namespace Vivarium

namespace EventLog

/-- The log holds the latest of all events that were ever pushed, and counts them all. -/
structure Holds (log : EventLog) (past : List Event) : Prop where
  positive : 0 < log.capacity
  events : log.events = past.rtake log.capacity
  total : log.total = past.length

variable {log : EventLog} {past : List Event}

theorem holds_withCapacity (capacity : Nat) : (withCapacity capacity).Holds [] :=
  ⟨Nat.le_max_right capacity 1, (List.rtake_nil _).symm, rfl⟩

/-- A full log makes room for one more event. -/
theorem Holds.push (holds : log.Holds past) (event : Event) :
    (log.push event).Holds (past ++ [event]) := by
  obtain ⟨positive, events, total⟩ := holds
  obtain ⟨room, capacity⟩ := Nat.exists_eq_succ_of_ne_zero (Nat.pos_iff_ne_zero.mp positive)
  have kept : (if log.events.length = log.capacity then log.events.drop 1 else log.events) =
      past.rtake room := by
    rw [events, capacity]
    simp only [List.rtake, List.length_drop, List.drop_drop]
    split
    · congr 1
      omega
    · congr 1
      omega
  refine ⟨positive, ?_, ?_⟩
  · show (if log.events.length = log.capacity then log.events.drop 1 else log.events) ++ [event] =
      (past ++ [event]).rtake log.capacity
    rw [kept, capacity, List.rtake_concat_succ]
  · rw [push_total, total, List.length_append, List.length_singleton]

theorem Holds.pushAll (holds : log.Holds past) (events : List Event) :
    (log.pushAll events).Holds (past ++ events) := by
  induction events generalizing log past with
  | nil =>
      rw [List.append_nil]
      exact holds
  | cons event rest inductionHypothesis =>
      rw [List.append_cons]
      exact inductionHypothesis (holds.push event)

theorem pushAll_append (log : EventLog) (first second : List Event) :
    log.pushAll (first ++ second) = (log.pushAll first).pushAll second := List.foldl_append

@[simp]
theorem pushAll_capacity (log : EventLog) (events : List Event) :
    (log.pushAll events).capacity = log.capacity := by
  induction events generalizing log with
  | nil => rfl
  | cons event rest inductionHypothesis => exact inductionHypothesis (log.push event)

/-- As many events as there ever were, if the capacity allows. -/
theorem Holds.eq_rtake_min (holds : log.Holds past) :
    log.events = past.rtake (min log.capacity past.length) := by
  rw [holds.events]
  simp only [List.rtake]
  congr 1
  omega

/-- The latest events are the last ones of those that the log holds. -/
theorem Holds.recent (holds : log.Holds past) (limit : Nat) :
    log.recent limit = past.rtake (min limit (min log.capacity past.length)) := by
  rw [EventLog.recent, holds.eq_rtake_min]
  simp only [List.rtake, List.length_drop, List.drop_drop]
  congr 1
  omega

/-- Events that every log takes in alike are the same: a log with room for all of them keeps
them as they are. -/
theorem eq_of_pushAll {first second : List Event}
    (same : ∀ log : EventLog, log.pushAll first = log.pushAll second) : first = second := by
  let roomy := withCapacity (max first.length second.length)
  have whole : ∀ events : List Event, events.length ≤ roomy.capacity →
      (roomy.pushAll events).events = events := by
    intro events fits
    have holds := (holds_withCapacity (max first.length second.length)).pushAll events
    rw [holds.events, pushAll_capacity, List.nil_append, List.rtake,
      Nat.sub_eq_zero_of_le fits, List.drop_zero]
  have room : max first.length second.length ≤ roomy.capacity := Nat.le_max_left _ 1
  rw [← whole first (by omega), same roomy, whole second (by omega)]

end EventLog

end Vivarium
