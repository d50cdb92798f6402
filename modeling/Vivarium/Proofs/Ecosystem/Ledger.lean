import Vivarium.Proofs.Breeding.Ledger
import Vivarium.Proofs.Ecosystem.Course
import Vivarium.Proofs.Ecosystem.Transfer

/-!
# The ledgers of an ecosystem

The nursery of an ecosystem counts and records over the whole course of it.  Its log forgets,
so that what was recorded in a course has to be told along with the course: this is a
chronicle.  Every course has one, and after a course the two ledgers tell the same.

Main definitions:

* `Request.reports`: the reports of selections in an answer;
* `Ecosystem.Records`: what a request records;
* `Ecosystem.Chronicle`: a course with all events that were recorded in it.

Main statements:

* `Ecosystem.Effect.exists_records`, `Records.unique`: each request records certain events
  and no others;
* `Ecosystem.ledgers_agree`: the ledgers after a course.
-/

namespace Vivarium

open NurseryCounters

/-- The reports of selections that came with an answer. -/
def Request.reports {α : Type} : Request α → α → List SelectionReport
  | .performSelection _ _, report => [report]
  | .runCycle, reports => reports
  | _, _ => []

/-- The reports that were returned in an exchange. -/
def Exchange.reports (x : Exchange) : List SelectionReport :=
  match x.answer with
  | .ok answer => x.request.reports answer
  | .error _ => []

namespace Ecosystem

/-- The ecosystem with another log. -/
def withLog (e : Ecosystem) (log : EventLog) : Ecosystem :=
  { e with nursery := e.nursery.withLog log }

/-- What a request records: it comes to the same whatever log the ecosystem starts with, and
adds these events to it. -/
structure Records {α : Type} (e : Ecosystem) (now : Instant) (request : Request α) (answer : α)
    (events : List Event) (later : Ecosystem) : Prop where
  performed : e.perform now request = .ok (answer, later)
  added : ∀ log, (e.withLog log).perform now request =
    .ok (answer, later.withLog (log.pushAll events))

variable {e later : Ecosystem} {α : Type} {now : Instant} {request : Request α} {answer : α}
  {events : List Event}

/-- A request records no other events than those that it records. -/
theorem Records.unique {others : List Event} (first : e.Records now request answer events later)
    (second : e.Records now request answer others later) : events = others := by
  refine EventLog.eq_of_pushAll ?_
  intro log
  have same := (first.added log).symm.trans (second.added log)
  exact congrArg (fun result => result.2.nursery.history) (Except.ok.inj same)

/-- The log of the ecosystem itself is one of those that it may start with. -/
theorem Records.history (records : e.Records now request answer events later) :
    later.nursery.history = e.nursery.history.pushAll events := by
  have same := records.performed.symm.trans (records.added e.nursery.history)
  exact congrArg (fun result => result.2.nursery.history) (Except.ok.inj same)

/-! ## One request -/

/-- Every request records certain events, and the counters are moved by these and by the
reports that are returned. -/
theorem Effect.exists_records (effect : e.Effect now request answer later) :
    ∃ events, e.Records now request answer events later ∧
      Books e.nursery.counters events (request.reports answer) later.nursery.counters := by
  have performed := perform_of_effect effect
  -- a request that leaves log and counters alone
  have silent (idle : request.reports answer = [])
      (uncounted : later.nursery.counters = e.nursery.counters)
      (unlogged : ∀ log, (e.withLog log).Effect now request answer (later.withLog log)) :
      ∃ events, e.Records now request answer events later ∧
        Books e.nursery.counters events (request.reports answer) later.nursery.counters := by
    refine ⟨[], ⟨performed, fun log => perform_of_effect (unlogged log)⟩, ?_⟩
    rw [idle, uncounted]
    exact Books.nil _
  cases effect with
  | register o isOpen => exact silent rfl rfl fun log => Effect.register o isOpen
  | execute found drawn => exact silent rfl rfl fun log => Effect.execute found drawn
  | evolve found drawn => exact silent rfl rfl fun log => Effect.evolve found drawn
  | modify f found => exact silent rfl rfl fun log => Effect.modify f found
  | remove found => exact silent rfl rfl fun log => Effect.remove found
  | removeNothing missing => exact silent rfl rfl fun log => Effect.removeNothing missing
  | tick => exact silent rfl rfl fun log => Effect.tick
  | shutdown => exact silent rfl rfl fun log => Effect.shutdown
  | registerStrategy faultless =>
      exact silent rfl rfl fun log => Effect.registerStrategy faultless
  | registerLandscape faultless =>
      exact silent rfl rfl fun log => Effect.registerLandscape faultless
  | removePopulation held => exact silent rfl rfl fun log => Effect.removePopulation held
  | release known held => exact silent rfl rfl fun log => Effect.release known held
  | releaseAll known => exact silent rfl rfl fun log => Effect.releaseAll known
  | createPopulation created =>
      obtain ⟨events, records, books⟩ := Nursery.records_createPopulation created
      refine ⟨events, ⟨performed, ?_⟩, books⟩
      intro log
      exact perform_of_effect (Effect.createPopulation (records log))
  | performSelection selected =>
      obtain ⟨events, records, books⟩ := Nursery.records_performSelection selected
      refine ⟨events, ⟨performed, ?_⟩, books⟩
      intro log
      exact perform_of_effect (Effect.performSelection (records log))
  | runCycle selected =>
      obtain ⟨events, records, books⟩ := Nursery.records_runCycle selected
      refine ⟨events, ⟨performed, ?_⟩, books⟩
      intro log
      exact perform_of_effect (Effect.runCycle (records log))
  | harvest population known registered =>
      -- the one transfer that records: a new population is filled with clones
      refine ⟨_, ⟨performed, ?_⟩, books_fill e.nursery _ _ _ now _⟩
      intro log
      exact perform_of_effect (Effect.harvest population known registered)

/-! ## Courses -/

/-- A course with all events that were recorded in it.  A request that failed has recorded
nothing. -/
inductive Chronicle (first : Ecosystem) : List Exchange → List Event → Ecosystem → Prop where
  | start : Chronicle first [] [] first
  | granted {exchanges : List Exchange} {recorded events : List Event} {e later : Ecosystem}
      {α : Type} {now : Instant} {request : Request α} {answer : α}
      (before : Chronicle first exchanges recorded e)
      (records : e.Records now request answer events later) :
      Chronicle first (exchanges ++ [Exchange.granted now request answer]) (recorded ++ events)
        later
  | refused {exchanges : List Exchange} {recorded : List Event} {e : Ecosystem} {x : Exchange}
      {fault : EcosystemFault} (before : Chronicle first exchanges recorded e)
      (served : e.Serves x e) (failed : x.answer = .error fault) :
      Chronicle first (exchanges ++ [x]) recorded e

variable {first : Ecosystem} {exchanges : List Exchange} {recorded : List Event}

/-- Every course can be told with its events. -/
theorem Course.exists_chronicle (course : Course first exchanges e) :
    ∃ recorded, Chronicle first exchanges recorded e := by
  induction course with
  | start => exact ⟨[], Chronicle.start⟩
  | @step exchanges e later x before served inductionHypothesis =>
      obtain ⟨recorded, chronicle⟩ := inductionHypothesis
      rcases of_served served with ⟨answer, granted, effect⟩ | ⟨fault, failed, -, rfl⟩
      · obtain ⟨events, records, -⟩ := effect.exists_records
        have same : x = Exchange.granted x.now x.request answer := by
          obtain ⟨Answer, now, request, answered⟩ := x
          exact congrArg (Exchange.mk Answer now request) granted
        rw [same]
        exact ⟨recorded ++ events, chronicle.granted records⟩
      · exact ⟨recorded, chronicle.refused served failed⟩

/-- All that was counted in a chronicle was recorded or reported in it. -/
theorem Chronicle.books (chronicle : Chronicle first exchanges recorded e) :
    Books first.nursery.counters recorded (exchanges.flatMap Exchange.reports)
      e.nursery.counters := by
  induction chronicle with
  | start => exact Books.nil _
  | granted before records inductionHypothesis =>
      obtain ⟨events, again, books⟩ := (effect_of_perform records.performed).exists_records
      obtain rfl := records.unique again
      rw [List.flatMap_append, List.flatMap_singleton]
      exact inductionHypothesis.append books
  | refused before served failed inductionHypothesis =>
      rw [List.flatMap_append, List.flatMap_singleton, Exchange.reports, failed,
        List.append_nil]
      exact inductionHypothesis

/-- The log has gone through all that was recorded. -/
theorem Chronicle.history (chronicle : Chronicle first exchanges recorded e) :
    e.nursery.history = first.nursery.history.pushAll recorded := by
  induction chronicle with
  | start => rfl
  | granted before records inductionHypothesis =>
      rw [records.history, inductionHypothesis, EventLog.pushAll_append]
  | refused before served failed inductionHypothesis => exact inductionHypothesis

variable {c : Config} {habitatSeed nurserySeed : Nat} {supply : IdSupply}

/-- The log of an ecosystem that began with an empty one holds the latest of all that was
recorded. -/
theorem Chronicle.holds
    (chronicle : Chronicle (founded c habitatSeed nurserySeed supply) exchanges recorded e) :
    e.nursery.history.Holds recorded := by
  have whole := (EventLog.holds_withCapacity c.nursery.historyCapacity).pushAll recorded
  rw [chronicle.history]
  exact whole

theorem Chronicle.capacity
    (chronicle : Chronicle (founded c habitatSeed nurserySeed supply) exchanges recorded e) :
    e.nursery.history.capacity = max 1 c.nursery.historyCapacity := by
  rw [chronicle.history, EventLog.pushAll_capacity, Nat.max_comm]
  rfl

/-- **The ledgers agree.**  A course can be told with the events that were recorded in it.
The five counters of events are the numbers of these events by kind; besides, there is one
event for every selection that found an organism.  The offspring counted are those
reported.  The log holds the last of all events, as many as its capacity allows, and gives
the last of them. -/
theorem ledgers_agree
    (course : Course (founded c habitatSeed nurserySeed supply) exchanges e) :
    (∃ recorded, Chronicle (founded c habitatSeed nurserySeed supply) exchanges recorded e) ∧
    ∀ recorded, Chronicle (founded c habitatSeed nurserySeed supply) exchanges recorded e →
      let counters := e.nursery.counters
      let history := e.nursery.history
      let reports := exchanges.flatMap Exchange.reports
      let held := min (max 1 c.nursery.historyCapacity) recorded.length
      (counters.mutations = countKind .mutation recorded ∧
        counters.crossovers = countKind .crossover recorded ∧
        counters.speciations = countKind .speciation recorded ∧
        counters.extinctions = countKind .extinction recorded ∧
        counters.breakthroughs = countKind .breakthrough recorded) ∧
      (history.total = recorded.length ∧
        history.total = counters.mutations + counters.crossovers + counters.speciations +
          counters.extinctions + counters.breakthroughs +
            reports.countP fun report => 0 < report.sizeBefore) ∧
      counters.offspring = (reports.map (·.offspring)).sum ∧
      history.events = recorded.rtake held ∧
      ∀ limit, history.recent limit = recorded.rtake (min limit held) := by
  refine ⟨course.exists_chronicle, ?_⟩
  intro recorded chronicle counters history reports held
  have books : Books NurseryCounters.zero recorded reports counters := chronicle.books
  have holds : history.Holds recorded := chronicle.holds
  have capacity : history.capacity = max 1 c.nursery.historyCapacity := chronicle.capacity
  refine ⟨books.kinds, ⟨holds.total, ?_⟩, books.offspring.trans (Nat.zero_add _), ?_, ?_⟩
  · rw [holds.total]
    exact books.length_events
  · rw [holds.eq_rtake_min, capacity]
  · intro limit
    rw [holds.recent, capacity]

/-- A strategy for populations of two. -/
def paired : Strategy := { Strategy.balanced with name := "paired", populationSize := 2 }

/-- The clearing, where pairs may be bred. -/
def meadow : Ecosystem :=
  { clearing with
    nursery :=
      { clearing.nursery with
        strategies := clearing.nursery.strategies.insert paired.name paired } }

/-- The newt is harvested into a burrow that is new, and gets one clone. -/
theorem ledgers_agree_burrow :
    let burrow := (meadow.harvested [newt.id] "burrow" paired ⟨0, 0⟩).2
    burrow.nursery.history.total = 1 ∧
      ∃ event, burrow.nursery.history.events = [event] ∧ event.kind = .mutation ∧
        burrow.nursery.counters.mutations = 1 := by
  intro burrow
  have registered : wasteland.Serves
      (Exchange.granted ⟨0, 0⟩ (.register newt) newt.normalize) clearing :=
    serves_of_effect (Effect.register newt rfl)
  have learned : clearing.Serves
      (Exchange.granted ⟨0, 0⟩ (.registerStrategy paired) ()) meadow :=
    serves_of_effect (Effect.registerStrategy (by decide +kernel))
  have known : meadow.nursery.strategies.find? "paired" = some paired :=
    Directory.find?_insert_self _ _ _
  have dug : meadow.Serves (Exchange.granted ⟨0, 0⟩ (.harvest [newt.id] "burrow" "paired")
      (meadow.harvested [newt.id] "burrow" paired ⟨0, 0⟩).1) burrow :=
    serves_of_effect (Effect.harvest "burrow" known
      (List.forall_mem_singleton.mpr (by decide +kernel)))
  have course := ((Course.start.step registered).step learned).step dug
  obtain ⟨⟨recorded, chronicle⟩, agree⟩ := ledgers_agree course
  obtain ⟨⟨mutations, -⟩, ⟨total, -⟩, -, events, -⟩ := agree recorded chronicle
  have once : burrow.nursery.history.total = 1 := by decide +kernel
  obtain ⟨event, rfl⟩ := List.length_eq_one_iff.mp (total.symm.trans once)
  have counted : burrow.nursery.counters.mutations = 1 := by decide +kernel
  refine ⟨once, event, events, ?_, counted⟩
  have kinds := mutations.symm.trans counted
  exact of_decide_eq_true (List.countP_eq_length.mp kinds event (List.mem_singleton_self event))

end Ecosystem

end Vivarium
