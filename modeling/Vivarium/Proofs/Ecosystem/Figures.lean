import Vivarium.Proofs.Breeding.Figures
import Vivarium.Proofs.Ecosystem.Transfer

/-!
# Figures in an ecosystem

The figures of populations are right in every state that an ecosystem comes to, whatever
is asked of it: with any strategies and landscapes, from any random stream and any supply
of ids, and also if organisms are modified from outside.  A harvest measures the
population it fills, a release measures what it leaves behind, and no request touches a
population in any other way.

Main definitions:

* `Ecosystem.Attainable`: the states after any requests, without the conditions that
  `Ecosystem.Reachable` puts on ids.

Main statements:

* `Ecosystem.IsCurrent.perform`: one request;
* `Ecosystem.figures_current`: a run.
-/

namespace Vivarium

namespace Ecosystem

/-- The states of an ecosystem after any number of requests, from a nursery without
populations on.  A request that fails leads to no other state. -/
inductive Attainable : Ecosystem → Prop where
  | founded (habitat : Habitat) (config : NurseryConfig) (rng : Rng) (supply : IdSupply) :
      Attainable ⟨habitat, Nursery.founded config rng, supply⟩
  | step {α : Type} {e later : Ecosystem} {now : Instant} {request : Request α} {answer : α}
      (before : Attainable e) (performed : e.perform now request = .ok (answer, later)) :
      Attainable later

theorem Reachable.attainable {limit : Nat} {e : Ecosystem} (reachable : Reachable limit e) :
    Attainable e := by
  induction reachable with
  | founded c habitatSeed nurserySeed supply distinct => exact Attainable.founded _ _ _ supply
  | step before faithful entering performed room inductionHypothesis =>
      exact inductionHypothesis.step performed

variable {e later : Ecosystem} {population : String} {ids : List OrganismId} {now : Instant}

/-- A harvest measures the population it fills. -/
theorem isCurrent_harvested (current : e.nursery.IsCurrent) (strategy : Strategy) :
    (e.harvested ids population strategy now).2.nursery.IsCurrent :=
  current.fill _ _ _ now _ population

/-- A release measures what it leaves behind. -/
theorem isCurrent_released (current : e.nursery.IsCurrent) (source : Population) :
    (e.released population source ids).2.nursery.IsCurrent :=
  current.put (Population.isCurrent_remeasure _ _)

/-- Every request keeps the figures of all populations current. -/
theorem isCurrent_perform {α : Type} {request : Request α} {answer : α}
    (current : e.nursery.IsCurrent) (performed : e.perform now request = .ok (answer, later)) :
    later.nursery.IsCurrent := by
  cases effect_of_perform performed with
  | register => exact current
  | execute => exact current
  | evolve => exact current
  | modify => exact current
  | remove => exact current
  | removeNothing => exact current
  | tick => exact current
  | shutdown => exact current
  | registerStrategy => exact current.of_populations rfl rfl
  | registerLandscape => exact current.of_populations rfl rfl
  | createPopulation created => exact current.createPopulation created
  | removePopulation => exact current.erase _
  | performSelection selected => exact current.performSelection selected
  | runCycle selected => exact current.runCycle selected
  | harvest => exact isCurrent_harvested current _
  | release => exact isCurrent_released current _
  | releaseAll =>
      -- the removal behind the release only takes the population away
      exact (isCurrent_released current _).erase _

theorem Attainable.isCurrent (attainable : Attainable e) : e.nursery.IsCurrent := by
  induction attainable with
  | founded habitat config rng supply => exact Nursery.isCurrent_founded config rng
  | step before performed inductionHypothesis =>
      exact isCurrent_perform inductionHypothesis performed

/-- **Figures are never stale.**  In every state that an ecosystem comes to, the figures
of each population are those of its organisms, and the summary of the nursery counts as
many organisms as these figures add up to. -/
theorem figures_current (attainable : Attainable e) :
    (∀ p ∈ e.nursery.populations.values,
      p.metrics = Metrics.measure p.organisms e.nursery.config.speciesBucketWidth) ∧
    e.nursery.metrics.totalOrganisms = (e.nursery.metrics.populations.map (·.2.size)).sum :=
  ⟨attainable.isCurrent, attainable.isCurrent.totalOrganisms⟩

/-- The empty pond, and the pond after the newt was harvested into it. -/
theorem figures_current_pond :
    (pondside.nursery.metrics.populationCount = 1 ∧
      pondside.nursery.metrics.totalOrganisms =
        (pondside.nursery.metrics.populations.map (·.2.size)).sum) ∧
    stock.metrics = Metrics.measure stock.organisms pond.nursery.config.speciesBucketWidth := by
  have held : pond.nursery.populations.contains "pond" = true := by decide +kernel
  obtain ⟨p, found⟩ := Directory.contains_iff.mp held
  have same : stock = p := by rw [stock, found, Option.getD_some]
  refine ⟨⟨by decide +kernel, (figures_current reachable_pondside.attainable).2⟩, ?_⟩
  refine (figures_current reachable_pond.attainable).1 stock ?_
  rw [same]
  exact Directory.mem_values_of_find? found

end Ecosystem

end Vivarium
