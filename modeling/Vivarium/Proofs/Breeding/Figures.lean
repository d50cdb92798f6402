import Mathlib.Algebra.GroupWithZero.Nat
import Vivarium.Proofs.Breeding.Operation

/-!
# Figures of populations

A population keeps figures about its organisms, and whatever changes the organisms has to
take them anew.  A population is *current* if its figures are those of its organisms, and
a nursery is current if all its populations are.  Every operation keeps a nursery current:
a population that is filled is measured even if no clone is missing, a cycle of selection
measures what it has bred, and a cycle that finds no organism changes nothing.

None of this asks for ids that are different or fresh, or for organisms that are normal.

Main definitions:

* `Population.IsCurrent`, `Nursery.IsCurrent`: figures that are not stale.

Main statements:

* `Population.IsCurrent.select`: a cycle of selection;
* `Nursery.IsCurrent.performSelection`, `runCycle`: cycles in a nursery;
* `Nursery.IsCurrent.totalOrganisms`: the summary counts what the figures say.
-/

namespace Vivarium

/-- The figures of the population are those of its organisms. -/
def Population.IsCurrent (p : Population) (bucketWidth : Float) : Prop :=
  p.metrics = Metrics.measure p.organisms bucketWidth

theorem Metrics.measure_size (organisms : List Organism) (bucketWidth : Float) :
    (measure organisms bucketWidth).size = organisms.length := by
  cases organisms with
  | nil => rfl
  | cons first rest => rfl

theorem Population.isCurrent_remeasure (p : Population) (bucketWidth : Float) :
    (p.remeasure bucketWidth).IsCurrent bucketWidth := rfl

/-- A cycle of selection measures what it has bred; a population without organisms keeps
its figures with everything else. -/
theorem Population.IsCurrent.select {p : Population} {config : NurseryConfig}
    (current : p.IsCurrent config.speciesBucketWidth) (strategy : Strategy)
    (landscape : Landscape) (now : Instant) (rng : Rng) (supply : IdSupply) :
    (Vivarium.select config strategy landscape now p rng supply).population.IsCurrent
      config.speciesBucketWidth := by
  unfold Vivarium.select
  dsimp only
  split
  · exact current
  · rfl

namespace Nursery

/-- The figures of all populations are those of their organisms. -/
def IsCurrent (n : Nursery) : Prop :=
  ∀ p ∈ n.populations.values, p.IsCurrent n.config.speciesBucketWidth

variable {n after : Nursery} {supply later : IdSupply} {p : Population}
  {name strategyName : String} {now : Instant}

theorem isCurrent_founded (config : NurseryConfig) (rng : Rng) :
    (founded config rng).IsCurrent := by
  intro p member
  cases member

namespace IsCurrent

/-- Only the populations of a nursery count, and the width of a species. -/
theorem of_populations (current : n.IsCurrent) (same : after.populations = n.populations)
    (sameConfig : after.config = n.config) : after.IsCurrent := by
  intro p member
  rw [same] at member
  rw [sameConfig]
  exact current p member

theorem put (current : n.IsCurrent) (measured : p.IsCurrent n.config.speciesBucketWidth) :
    (n.put name p).IsCurrent := by
  intro other member
  rcases Directory.mem_values_insert member with rfl | before
  · exact measured
  · exact current other before

theorem erase (current : n.IsCurrent) (name : String) :
    ({ n with populations := n.populations.erase name } : Nursery).IsCurrent :=
  fun p member => current p (Directory.mem_values_erase member)

/-- A population is measured when it is filled, even if nothing was missing. -/
theorem fill (current : n.IsCurrent) (p : Population) (seeds : List Organism) (size : Nat)
    (now : Instant) (supply : IdSupply) (name : String) :
    ((n.fill p seeds size now supply).2.1.put name
      (n.fill p seeds size now supply).1).IsCurrent := by
  have filled : (n.fill p seeds size now supply).2.1.IsCurrent := current.of_populations rfl rfl
  exact filled.put (Population.isCurrent_remeasure _ _)

theorem createPopulation {seeds : List Organism} {metrics : Vivarium.Metrics}
    (current : n.IsCurrent)
    (created : n.createPopulation supply name seeds strategyName now =
      .ok (metrics, after, later)) : after.IsCurrent := by
  obtain ⟨strategy, -, -, -, -, rfl, -⟩ := of_createPopulation created
  exact current.fill _ seeds strategy.populationSize now _ name

theorem performSelection {report : SelectionReport} (current : n.IsCurrent)
    (performed : n.performSelection supply name strategyName now = .ok (report, after, later)) :
    after.IsCurrent := by
  obtain ⟨strategy, landscape, p, -, -, held, -, rfl, -⟩ := of_performSelection performed
  have measured := current p (Directory.mem_values_of_find? held)
  exact (current.put (measured.select strategy landscape now n.rng supply)).of_populations rfl rfl

/-- Each cycle of a run over several populations starts from a current nursery. -/
theorem runCycle {reports : List SelectionReport} (current : n.IsCurrent)
    (performed : n.runCycle supply now = .ok (reports, after, later)) : after.IsCurrent := by
  obtain ⟨-, last, -, selected, rfl⟩ := of_runCycle performed
  have kept := kept_of_selectAll (fun n _ => n.IsCurrent)
    (fun current performed => IsCurrent.performSelection current performed) current selected
  exact kept.of_populations rfl rfl

/-- The sizes that a current nursery reports add up to the number of its organisms. -/
theorem totalOrganisms (current : n.IsCurrent) :
    n.metrics.totalOrganisms = (n.metrics.populations.map (·.2.size)).sum := by
  have sizes : n.populations.values.map (·.metrics.size) = n.populations.values.map (·.size) := by
    refine List.map_congr_left ?_
    intro p member
    rw [current p member, Metrics.measure_size]
    rfl
  have reported : n.metrics.populations.map (·.2.size) =
      n.populations.values.map (·.metrics.size) := by
    simp only [metrics, Directory.values, List.map_map, Function.comp_def]
  rw [reported, sizes, List.sum_eq_foldl, List.foldl_map]
  rfl

end IsCurrent

end Nursery

end Vivarium
