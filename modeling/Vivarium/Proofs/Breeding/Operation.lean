import Vivarium.Proofs.Breeding.Filling
import Vivarium.Proofs.Breeding.Selection
import Vivarium.Proofs.Directory
import Vivarium.Proofs.Outcome

/-!
# Operations of a nursery taken apart

What an operation of a nursery has found when it succeeds, and what it writes.  An operation
that selects on several populations is taken apart into selections on one.

Main definitions:

* `Nursery.withNewPopulation`, `withSelected`: what is written.

Main statements:

* `Nursery.of_createPopulation`, `of_performSelection`, `of_runCycle`: the operations;
* `Nursery.left_of_selectAll`, `Nursery.kept_of_selectAll`: what each selection keeps, all
  together keep;
* `Nursery.advances_of_createPopulation`, `advances_of_performSelection`,
  `advances_of_runCycle`: ids are only given out.
-/

namespace Vivarium

namespace Nursery

variable {n after : Nursery} {name strategyName : String} {now : Instant}
  {supply later : IdSupply} {p : Population}

theorem population_eq_ok : n.population name = .ok p ↔ n.populations.find? name = some p := by
  unfold population
  cases found : n.populations.find? name with
  | none => constructor <;> intro impossible <;> cases impossible
  | some p => rw [Except.ok.injEq, Option.some.injEq]

theorem find?_put_self (n : Nursery) (name : String) (p : Population) :
    (n.put name p).populations.find? name = some p :=
  Directory.find?_insert_self _ _ _

/-! ## New populations -/

/-- A new population under its name, after seeds were enrolled in it and it was
filled. -/
def withNewPopulation (n : Nursery) (supply : IdSupply) (name : String)
    (seeds : List Organism) (strategy : Strategy) (now : Instant) :
    Population × Nursery × IdSupply :=
  let enrolled := enrollAll (Population.founded name strategy.name now) supply seeds
  n.fill enrolled.2.1 seeds strategy.populationSize now enrolled.2.2

/-- The checks of a request for a new population in their order, and what it comes
to when none of them fails. -/
theorem createPopulation_eq (n : Nursery) (supply : IdSupply) (name : String)
    (seeds : List Organism) (strategyName : String) (now : Instant) :
    n.createPopulation supply name seeds strategyName now =
      match n.strategies.find? strategyName with
      | none => .error (.strategyNotFound strategyName)
      | some strategy =>
          if seeds.isEmpty then .error (.emptySeed name)
          else if n.populations.contains name then .error (.populationExists name)
          else
            let filled := n.withNewPopulation supply name seeds strategy now
            .ok (filled.1.metrics, filled.2.1.put name filled.1, filled.2.2) := by
  unfold createPopulation strategy
  cases n.strategies.find? strategyName with
  | none => rfl
  | some strategy =>
      cases seeds.isEmpty with
      | true => rfl
      | false =>
          cases n.populations.contains name with
          | true => rfl
          | false => rfl

/-- A request that passes the checks succeeds. -/
theorem createPopulation_of_new {seeds : List Organism} {strategy : Strategy}
    {filled : Population × Nursery × IdSupply}
    (known : n.strategies.find? strategyName = some strategy) (nonempty : seeds ≠ [])
    (new : n.populations.find? name = none)
    (filling : n.withNewPopulation supply name seeds strategy now = filled) :
    n.createPopulation supply name seeds strategyName now =
      .ok (filled.1.metrics, filled.2.1.put name filled.1, filled.2.2) := by
  subst filling
  rw [createPopulation_eq, known, List.isEmpty_eq_false_iff.mpr nonempty,
    Directory.contains_eq_false_iff.mpr new]
  rfl

/-- A request for a new population that succeeds has passed the checks. -/
theorem of_createPopulation {seeds : List Organism} {metrics : Vivarium.Metrics}
    (created : n.createPopulation supply name seeds strategyName now =
      .ok (metrics, after, later)) :
    ∃ strategy, n.strategies.find? strategyName = some strategy ∧ seeds ≠ [] ∧
      n.populations.find? name = none ∧
      let filled := n.withNewPopulation supply name seeds strategy now
      metrics = filled.1.metrics ∧ after = filled.2.1.put name filled.1 ∧ later = filled.2.2 := by
  rw [createPopulation_eq] at created
  cases known : n.strategies.find? strategyName with
  | none =>
      rw [known] at created
      cases created
  | some strategy =>
      rw [known] at created
      dsimp only at created
      split at created
      · cases created
      rename_i someSeeds
      split at created
      · cases created
      rename_i unheld
      cases created
      refine ⟨strategy, rfl, ?_, ?_, rfl, rfl, rfl⟩
      · rintro rfl
        exact someSeeds rfl
      · exact Directory.contains_eq_false_iff.mp (Bool.not_eq_true _ ▸ unheld)

theorem advances_of_createPopulation {seeds : List Organism} {metrics : Vivarium.Metrics}
    (created : n.createPopulation supply name seeds strategyName now =
      .ok (metrics, after, later)) : supply.Advances later := by
  obtain ⟨strategy, -, -, -, -, rfl, rfl⟩ := of_createPopulation created
  have enrolled := enrollAll_advances (Population.founded name strategy.name now) supply seeds
  exact enrolled.trans (fill_advances n _ seeds strategy.populationSize now _)

/-! ## Selection -/

/-- The nursery after a cycle of selection on the population of a name. -/
def withSelected (n : Nursery) (name : String) (selected : Selected) : Nursery :=
  { n.put name selected.population with
    rng := selected.rng
    counters := n.counters.record selected.report selected.events
    history := n.history.pushAll selected.events }

/-- A request for a cycle of selection that succeeds has found all that it needs. -/
theorem of_performSelection {report : SelectionReport}
    (performed : n.performSelection supply name strategyName now = .ok (report, after, later)) :
    ∃ strategy landscape p, n.strategies.find? strategyName = some strategy ∧
      n.landscapes.find? n.config.defaultLandscape = some landscape ∧
      n.populations.find? name = some p ∧
      let selected := select n.config strategy landscape now p n.rng supply
      report = selected.report ∧ after = n.withSelected name selected ∧
        later = selected.supply := by
  unfold performSelection strategy landscape population at performed
  cases known : n.strategies.find? strategyName with
  | none =>
      rw [known] at performed
      cases performed
  | some strategy =>
      rw [known] at performed
      cases placed : n.landscapes.find? n.config.defaultLandscape with
      | none =>
          rw [placed] at performed
          cases performed
      | some landscape =>
          rw [placed] at performed
          cases held : n.populations.find? name with
          | none =>
              rw [held] at performed
              cases performed
          | some p =>
              rw [held] at performed
              cases performed
              exact ⟨strategy, landscape, p, rfl, rfl, rfl, rfl, rfl, rfl⟩

/-- Selection on a population takes away no population, strategy or landscape. -/
theorem kept_of_performSelection {report : SelectionReport}
    (performed : n.performSelection supply name strategyName now = .ok (report, after, later)) :
    after.strategies = n.strategies ∧ after.landscapes = n.landscapes ∧
      after.config = n.config ∧
      ∀ other, n.populations.contains other = true → after.populations.contains other = true := by
  obtain ⟨strategy, landscape, p, -, -, -, -, rfl, -⟩ := of_performSelection performed
  refine ⟨rfl, rfl, rfl, fun other held => Directory.contains_iff.mpr ?_⟩
  obtain ⟨q, there⟩ := Directory.contains_iff.mp held
  by_cases same : other = name
  · rw [same]
    exact ⟨_, Directory.find?_insert_self _ _ _⟩
  · exact ⟨q, (Directory.find?_insert_of_ne _ _ same).trans there⟩

theorem advances_of_performSelection {report : SelectionReport}
    (performed : n.performSelection supply name strategyName now = .ok (report, after, later)) :
    supply.Advances later := by
  obtain ⟨strategy, landscape, p, -, -, -, -, -, rfl⟩ := of_performSelection performed
  exact select_advances n.config strategy landscape now p n.rng supply

/-- Cycles of selection on several populations, one after the other.  What is said of a nursery
may depend on the populations that are still to come. -/
theorem left_of_selectAll (Holds : List String → Nursery → IdSupply → Prop)
    (selected : ∀ {n after : Nursery} {supply later : IdSupply} {name : String}
      {rest : List String} {report : SelectionReport}, Holds (name :: rest) n supply →
        n.performSelection supply name strategyName now = .ok (report, after, later) →
          Holds rest after later)
    {names : List String} {reports : List SelectionReport}
    (holds : Holds names n supply)
    (performed : n.selectAll supply strategyName now names = .ok (reports, after, later)) :
    Holds [] after later := by
  induction names generalizing n supply reports with
  | nil =>
      cases performed
      exact holds
  | cons first rest inductionHypothesis =>
      obtain ⟨⟨report, middle, between⟩, firstPerformed, performed⟩ := bind_eq_ok.mp performed
      obtain ⟨⟨others, last, finish⟩, restPerformed, performed⟩ := bind_eq_ok.mp performed
      cases performed
      exact inductionHypothesis (selected holds firstPerformed) restPerformed

/-- What a cycle of selection on one population keeps, cycles on several ones keep. -/
theorem kept_of_selectAll (Holds : Nursery → IdSupply → Prop)
    (kept : ∀ {n after : Nursery} {supply later : IdSupply} {name : String}
      {report : SelectionReport}, Holds n supply →
        n.performSelection supply name strategyName now = .ok (report, after, later) →
          Holds after later)
    {names : List String} {reports : List SelectionReport}
    (holds : Holds n supply)
    (performed : n.selectAll supply strategyName now names = .ok (reports, after, later)) :
    Holds after later :=
  left_of_selectAll (fun _ => Holds) kept holds performed

/-- A cycle of selection on all populations counts as one cycle of the nursery. -/
theorem of_runCycle {reports : List SelectionReport}
    (performed : n.runCycle supply now = .ok (reports, after, later)) :
    ∃ strategy last, n.strategy n.config.defaultStrategy = .ok strategy ∧
      n.selectAll supply n.config.defaultStrategy now n.populationNames =
        .ok (reports, last, later) ∧
      after =
        { last with counters := { last.counters with cycles := last.counters.cycles + 1 } } := by
  obtain ⟨strategy, looked, performed⟩ := bind_eq_ok.mp performed
  obtain ⟨⟨reports, last, finish⟩, selected, performed⟩ := bind_eq_ok.mp performed
  cases performed
  exact ⟨strategy, last, looked, selected, rfl⟩

theorem advances_of_runCycle {reports : List SelectionReport}
    (performed : n.runCycle supply now = .ok (reports, after, later)) :
    supply.Advances later := by
  obtain ⟨-, last, -, selected, -⟩ := of_runCycle performed
  exact kept_of_selectAll (fun _ reached => supply.Advances reached)
    (fun advances performed => advances.trans (advances_of_performSelection performed))
    (IdSupply.Advances.refl supply) selected

end Nursery

end Vivarium
