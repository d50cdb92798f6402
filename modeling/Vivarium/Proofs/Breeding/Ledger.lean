import Mathlib.Algebra.GroupWithZero.Nat
import Vivarium.Proofs.Breeding.EventLog
import Vivarium.Proofs.Breeding.Operation

/-!
# Two ledgers of a nursery

A nursery keeps two ledgers of what happens in it: it counts, and it records events.  The
counts are taken from the reports of selections, from the number of clones, and from events
of three kinds; the events are pushed apart from that.  This module shows, operation by
operation, that whatever is added to one ledger is added to the other.

What an operation records is told by the logs it makes of all logs that it may be started
with; in none of this is a log read.

Main definitions:

* `Books`: counters that agree with events and reports;
* `Nursery.withLog`: a nursery with another log;
* `Nursery.Records`: what an operation of a nursery records.

Main statements:

* `Books.kinds`, `Books.length_events`: what counters tell of all events;
* `books_fill`, `books_select`: clones and selections;
* `Nursery.records_createPopulation`, `records_performSelection`, `records_runCycle`: the
  operations that record.
-/

namespace Vivarium

open NurseryCounters

/-! ## Counting events -/

/-- Between two states of the counters some events were recorded and some reports given, and
what was counted is what was recorded and reported. -/
structure Books (before : NurseryCounters) (events : List Event)
    (reports : List SelectionReport) (after : NurseryCounters) : Prop where
  mutations : after.mutations = before.mutations + countKind .mutation events
  crossovers : after.crossovers = before.crossovers + countKind .crossover events
  speciations : after.speciations = before.speciations + countKind .speciation events
  extinctions : after.extinctions = before.extinctions + countKind .extinction events
  breakthroughs : after.breakthroughs = before.breakthroughs + countKind .breakthrough events
  offspring : after.offspring = before.offspring + (reports.map (·.offspring)).sum
  /-- A selection is recorded unless it found no organism. -/
  selections : countKind .selection events = reports.countP fun report => 0 < report.sizeBefore

theorem countKind_append (kind : Event.Kind) (first second : List Event) :
    countKind kind (first ++ second) = countKind kind first + countKind kind second :=
  List.countP_append

theorem countKind_eq_zero {kind : Event.Kind} {events : List Event}
    (other : ∀ event ∈ events, event.kind ≠ kind) : countKind kind events = 0 := by
  refine List.countP_eq_zero.mpr ?_
  intro event member
  rw [decide_eq_true_eq]
  exact other event member

/-- Each event is of one of the six kinds. -/
theorem length_eq_countKind (events : List Event) :
    events.length = countKind .mutation events + countKind .crossover events +
      countKind .speciation events + countKind .extinction events +
      countKind .breakthrough events + countKind .selection events := by
  induction events with
  | nil => rfl
  | cons event rest inductionHypothesis =>
      obtain ⟨kind, time, organism, population, detail, impact⟩ := event
      rw [List.length_cons, inductionHypothesis]
      simp only [countKind, List.countP_cons]
      cases kind <;> simp only [decide_true, decide_false, reduceCtorEq, if_true, if_false,
        Bool.false_eq_true] <;> omega

namespace Books

variable {before middle after : NurseryCounters} {events : List Event}
  {reports : List SelectionReport}

theorem nil (counters : NurseryCounters) : Books counters [] [] counters :=
  ⟨rfl, rfl, rfl, rfl, rfl, rfl, rfl⟩

theorem append {moreEvents : List Event} {moreReports : List SelectionReport}
    (first : Books before events reports middle)
    (second : Books middle moreEvents moreReports after) :
    Books before (events ++ moreEvents) (reports ++ moreReports) after := by
  constructor
  · rw [second.mutations, first.mutations, countKind_append, Nat.add_assoc]
  · rw [second.crossovers, first.crossovers, countKind_append, Nat.add_assoc]
  · rw [second.speciations, first.speciations, countKind_append, Nat.add_assoc]
  · rw [second.extinctions, first.extinctions, countKind_append, Nat.add_assoc]
  · rw [second.breakthroughs, first.breakthroughs, countKind_append, Nat.add_assoc]
  · rw [second.offspring, first.offspring, List.map_append, List.sum_append, Nat.add_assoc]
  · rw [countKind_append, first.selections, second.selections, List.countP_append]

/-- From new counters on, five of them are numbers of events by kind. -/
theorem kinds (books : Books NurseryCounters.zero events reports after) :
    after.mutations = countKind .mutation events ∧
      after.crossovers = countKind .crossover events ∧
      after.speciations = countKind .speciation events ∧
      after.extinctions = countKind .extinction events ∧
      after.breakthroughs = countKind .breakthrough events :=
  ⟨books.mutations.trans (Nat.zero_add _), books.crossovers.trans (Nat.zero_add _),
    books.speciations.trans (Nat.zero_add _), books.extinctions.trans (Nat.zero_add _),
    books.breakthroughs.trans (Nat.zero_add _)⟩

/-- All events are counted, but for those of the selections themselves. -/
theorem length_events (books : Books NurseryCounters.zero events reports after) :
    events.length = after.mutations + after.crossovers + after.speciations +
      after.extinctions + after.breakthroughs +
        reports.countP fun report => 0 < report.sizeBefore := by
  obtain ⟨mutations, crossovers, speciations, extinctions, breakthroughs⟩ := books.kinds
  rw [length_eq_countKind, books.selections, mutations, crossovers, speciations, extinctions,
    breakthroughs]

end Books

/-! ## Clones -/

theorem kind_of_mem_enrollClones {p : Population} {now : Instant} {supply : IdSupply}
    {clones : List Clone} {event : Event}
    (member : event ∈ (enrollClones p now supply clones).2.1) : event.kind = .mutation := by
  induction clones generalizing p supply with
  | nil => cases member
  | cons clone rest inductionHypothesis =>
      rcases List.mem_cons.mp member with rfl | later
      · rfl
      · exact inductionHypothesis later

/-- The events of filling are those of the clones. -/
def Nursery.fillEvents (n : Nursery) (p : Population) (seeds : List Organism) (size : Nat)
    (now : Instant) (supply : IdSupply) : List Event :=
  (enrollClones p now supply ((drawClones seeds now (size - p.size)).run n.rng).1).2.1

variable {n after : Nursery} {p : Population} {supply later : IdSupply} {now : Instant}

/-- Each clone is a mutation in both ledgers. -/
theorem books_fill (n : Nursery) (p : Population) (seeds : List Organism) (size : Nat)
    (now : Instant) (supply : IdSupply) :
    Books n.counters (n.fillEvents p seeds size now supply) []
      (n.fill p seeds size now supply).2.1.counters := by
  have kinds : ∀ event ∈ n.fillEvents p seeds size now supply, event.kind = .mutation :=
    fun event member => kind_of_mem_enrollClones member
  have all : countKind .mutation (n.fillEvents p seeds size now supply) =
      (n.fillEvents p seeds size now supply).length :=
    List.countP_eq_length.mpr fun event member => decide_eq_true (kinds event member)
  have none : ∀ kind : Event.Kind, kind ≠ .mutation →
      countKind kind (n.fillEvents p seeds size now supply) = 0 := by
    intro kind other
    refine countKind_eq_zero ?_
    intro event member
    rw [kinds event member]
    exact Ne.symm other
  constructor
  · rw [all]
    rfl
  · rw [none .crossover (by decide)]
    rfl
  · rw [none .speciation (by decide)]
    rfl
  · rw [none .extinction (by decide)]
    rfl
  · rw [none .breakthrough (by decide)]
    rfl
  · rfl
  · rw [none .selection (by decide)]
    rfl

/-! ## Selections -/

/-- A child that was crossed is a crossover, and one that was mutated is a mutation. -/
theorem Offspring.countKind_events (c : Offspring) (id : OrganismId) (population : String)
    (now : Instant) :
    countKind .mutation (c.events id population now) = (if c.outcome.isSome then 1 else 0) ∧
      countKind .crossover (c.events id population now) = (if c.parents.isSome then 1 else 0) ∧
      countKind .selection (c.events id population now) = 0 := by
  obtain ⟨organism, parents, outcome⟩ := c
  cases parents <;> cases outcome <;> exact ⟨rfl, rfl, rfl⟩

theorem countKind_births (population : String) (now : Instant) (supply : IdSupply)
    (litter : List Offspring) :
    let births := (nameOffspring population now supply litter).2.1
    countKind .mutation births = litter.countP (fun child => child.outcome.isSome) ∧
      countKind .crossover births = litter.countP (fun child => child.parents.isSome) ∧
      countKind .selection births = 0 := by
  induction litter generalizing supply with
  | nil => exact ⟨rfl, rfl, rfl⟩
  | cons child rest inductionHypothesis =>
      obtain ⟨mutations, crossovers, selections⟩ := inductionHypothesis supply.next.2
      obtain ⟨mutated, crossed, unselected⟩ :=
        child.countKind_events supply.next.1 population now
      refine ⟨?_, ?_, ?_⟩
      · rw [List.countP_cons, ← mutations, ← mutated, Nat.add_comm]
        exact countKind_append _ _ _
      · rw [List.countP_cons, ← crossovers, ← crossed, Nat.add_comm]
        exact countKind_append _ _ _
      · exact (countKind_append _ _ _).trans (congrArg₂ (· + ·) unselected selections)

/-- What is remarkable about a cycle is neither a birth nor the selection itself. -/
theorem kind_of_mem_emergence {config : NurseryConfig} {population : String} {now : Instant}
    {before after : Metrics} {organisms : List Organism} {event : Event}
    (member : event ∈ emergence config population now before after organisms) :
    event.kind = .speciation ∨ event.kind = .breakthrough ∨ event.kind = .extinction := by
  rcases List.mem_append.mp member with grown | extinct
  · rcases List.mem_append.mp grown with speciated | broken
    · unfold speciation at speciated
      split at speciated
      · obtain rfl := List.mem_singleton.mp speciated
        exact Or.inl rfl
      · cases speciated
    · unfold breakthrough at broken
      split at broken
      · obtain rfl := List.mem_singleton.mp broken
        exact Or.inr (Or.inl rfl)
      · cases broken
  · unfold extinction at extinct
    dsimp only at extinct
    split at extinct
    · obtain rfl := List.mem_singleton.mp extinct
      exact Or.inr (Or.inr rfl)
    · cases extinct

/-- The report of a selection counts the births among its events, and there is one event
for the selection if it has found an organism. -/
theorem countKind_select (config : NurseryConfig) (strategy : Strategy) (landscape : Landscape)
    (now : Instant) (p : Population) (rng : Rng) (supply : IdSupply) :
    let selected := select config strategy landscape now p rng supply
    countKind .mutation selected.events = selected.report.mutations ∧
      countKind .crossover selected.events = selected.report.crossovers ∧
      countKind .selection selected.events =
        [selected.report].countP fun report => 0 < report.sizeBefore := by
  by_cases empty : p.organisms = []
  · rw [select_of_nil empty]
    have nobody : p.size = 0 := List.length_eq_zero_iff.mpr empty
    refine ⟨rfl, rfl, ?_⟩
    rw [List.countP_singleton, if_neg]
    · rfl
    · rw [decide_eq_true_eq]
      exact Nat.not_lt_of_le (Nat.le_of_eq nobody)
  · have somebody : 0 < p.size := List.length_pos_iff.mpr empty
    intro selected
    have unfolded : selected = select config strategy landscape now p rng supply := rfl
    unfold select at unfolded
    dsimp only at unfolded
    split at unfolded
    · rename_i unranked
      have counted := length_rank landscape p.organisms
      rw [unranked] at counted
      exact absurd (List.length_eq_zero_iff.mp counted.symm) empty
    · generalize run : (drawLitter _ _ config strategy now _).run rng = drawn at unfolded
      obtain ⟨litter, later⟩ := drawn
      obtain ⟨mutations, crossovers, selections⟩ := countKind_births p.name now supply litter
      rw [unfolded]
      have remarkable : ∀ kind : Event.Kind, kind = .mutation ∨ kind = .crossover ∨
          kind = .selection → ∀ before after organisms,
            countKind kind (emergence config p.name now before after organisms) = 0 := by
        intro kind ordinary before after organisms
        refine countKind_eq_zero ?_
        intro event member
        rcases kind_of_mem_emergence member with same | same | same <;>
          rcases ordinary with rfl | rfl | rfl <;> rw [same] <;> decide
      refine ⟨?_, ?_, ?_⟩
      · simp only [countKind_append, remarkable .mutation (Or.inl rfl), mutations]
        rfl
      · simp only [countKind_append, remarkable .crossover (Or.inr (Or.inl rfl)), crossovers]
        rfl
      · simp only [countKind_append, remarkable .selection (Or.inr (Or.inr rfl)), selections,
          List.countP_singleton, somebody]
        rfl

/-- A selection adds the same to both ledgers. -/
theorem books_select (counters : NurseryCounters) (config : NurseryConfig) (strategy : Strategy)
    (landscape : Landscape) (now : Instant) (p : Population) (rng : Rng) (supply : IdSupply) :
    let selected := select config strategy landscape now p rng supply
    Books counters selected.events [selected.report]
      (counters.record selected.report selected.events) := by
  intro selected
  obtain ⟨mutations, crossovers, selections⟩ :=
    countKind_select config strategy landscape now p rng supply
  constructor
  · exact congrArg (counters.mutations + ·) mutations.symm
  · exact congrArg (counters.crossovers + ·) crossovers.symm
  · rfl
  · rfl
  · rfl
  · rfl
  · exact selections

/-! ## Operations -/

namespace Nursery

/-- The nursery with another log. -/
def withLog (n : Nursery) (log : EventLog) : Nursery := { n with history := log }

/-- What an operation of a nursery records: it comes to the same whatever log it is started
with, and adds these events to the log. -/
def Records {α : Type} (operation : Nursery → Except NurseryFault (α × Nursery × IdSupply))
    (n : Nursery) (events : List Event) (answer : α) (after : Nursery) (later : IdSupply) : Prop :=
  ∀ log, operation (n.withLog log) = .ok (answer, after.withLog (log.pushAll events), later)

variable {name strategyName : String}

theorem records_createPopulation {seeds : List Organism} {metrics : Vivarium.Metrics}
    (created : n.createPopulation supply name seeds strategyName now =
      .ok (metrics, after, later)) :
    ∃ events, n.Records (·.createPopulation supply name seeds strategyName now) events metrics
      after later ∧ Books n.counters events [] after.counters := by
  obtain ⟨strategy, known, someSeeds, unheld, rfl, rfl, rfl⟩ := of_createPopulation created
  let enrolled := enrollAll (Population.founded name strategy.name now) supply seeds
  refine ⟨n.fillEvents enrolled.2.1 seeds strategy.populationSize now enrolled.2.2, ?_,
    books_fill n _ seeds strategy.populationSize now _⟩
  intro log
  have unseeded : seeds.isEmpty = false := List.isEmpty_eq_false_iff.mpr someSeeds
  have unused : n.populations.contains name = false := Directory.contains_eq_false_iff.mpr unheld
  show (n.withLog log).createPopulation supply name seeds strategyName now = _
  simp only [createPopulation_eq, withLog, known, unseeded, unused]
  rfl

theorem records_performSelection {report : SelectionReport}
    (performed : n.performSelection supply name strategyName now = .ok (report, after, later)) :
    ∃ events, n.Records (·.performSelection supply name strategyName now) events report after
      later ∧ Books n.counters events [report] after.counters := by
  obtain ⟨strategy, landscape, p, known, placed, held, rfl, rfl, rfl⟩ :=
    of_performSelection performed
  refine ⟨_, ?_, books_select n.counters n.config strategy landscape now p n.rng supply⟩
  intro log
  exact performSelection_eq supply now known placed held

/-- What several selections record is what each of them records, one after the other. -/
theorem records_selectAll {names : List String} {reports : List SelectionReport}
    (performed : n.selectAll supply strategyName now names = .ok (reports, after, later)) :
    ∃ events, n.Records (·.selectAll supply strategyName now names) events reports after later ∧
      Books n.counters events reports after.counters := by
  induction names generalizing n supply reports with
  | nil =>
      cases performed
      exact ⟨[], fun _ => rfl, Books.nil _⟩
  | cons name rest inductionHypothesis =>
      obtain ⟨⟨report, middle, between⟩, first, performed⟩ := bind_eq_ok.mp performed
      obtain ⟨⟨others, last, finish⟩, second, performed⟩ := bind_eq_ok.mp performed
      cases performed
      obtain ⟨firstEvents, firstRecords, firstBooks⟩ := records_performSelection first
      obtain ⟨restEvents, restRecords, restBooks⟩ := inductionHypothesis second
      refine ⟨firstEvents ++ restEvents, ?_, firstBooks.append restBooks⟩
      intro log
      refine bind_eq_ok.mpr ⟨_, firstRecords log, ?_⟩
      rw [EventLog.pushAll_append]
      exact bind_eq_ok.mpr ⟨_, restRecords (log.pushAll firstEvents), rfl⟩

theorem records_runCycle {reports : List SelectionReport}
    (performed : n.runCycle supply now = .ok (reports, after, later)) :
    ∃ events, n.Records (·.runCycle supply now) events reports after later ∧
      Books n.counters events reports after.counters := by
  obtain ⟨strategy, last, looked, selected, rfl⟩ := of_runCycle performed
  obtain ⟨events, records, books⟩ := records_selectAll selected
  refine ⟨events, ?_, { books with }⟩
  intro log
  refine bind_eq_ok.mpr ⟨strategy, looked, ?_⟩
  exact bind_eq_ok.mpr ⟨_, records log, rfl⟩

end Nursery

end Vivarium
