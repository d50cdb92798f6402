import Mathlib.Logic.Equiv.Defs
import Vivarium.Habitat.Cycle
import Vivarium.Organism.Crossover

/-!
# Organisms under other ids

A renaming exchanges ids for other ids, one for one.  An organism does nothing with its own id:
whatever is drawn for it is drawn just so for the organism under another id, from the same
stream, and comes to the same but for the id.

Each random step therefore has one equation.  On the left the organism is renamed and the step
is drawn; on the right the step is drawn and its result is renamed.

Main definitions:

* `Renaming`: an exchange of ids;
* `Organism.renamed`, `Resident.renamed`: an organism and a resident under the new id.

Main statements:

* `Mutation.apply_renamed`, `Organism.evolve_renamed`: mutation and evolution;
* `Organism.tick_renamed`, `Resident.cycle_renamed`: the cycle of one organism;
* `crossover_renamed`: the child of renamed parents.
-/

namespace Vivarium

/-- An exchange of ids for other ids, one for one. -/
abbrev Renaming := Equiv.Perm OrganismId

/-- The organism under its new id. -/
def Organism.renamed (π : Renaming) (o : Organism) : Organism := { o with id := π o.id }

/-- The resident under its new id, with its mark. -/
def Resident.renamed (π : Renaming) (r : Resident) : Resident :=
  { r with organism := r.organism.renamed π }

/-- A renamed organism and what came with it, which has no id. -/
def Organism.renamedWith {β : Type} (π : Renaming) (result : Organism × β) : Organism × β :=
  (result.1.renamed π, result.2)

variable (π : Renaming)

/-! ## What a new id leaves alone -/

namespace Organism

variable (o : Organism)

@[simp]
theorem renamed_id : (o.renamed π).id = π o.id := rfl

@[simp]
theorem renamed_state : (o.renamed π).state = o.state := rfl

@[simp]
theorem renamed_activeGenes : (o.renamed π).activeGenes = o.activeGenes := rfl

@[simp]
theorem renamed_evolution : (o.renamed π).evolution = o.evolution := rfl

@[simp]
theorem renamed_symm_renamed : (o.renamed π).renamed π.symm = o := by
  simp [renamed]

end Organism

/-! ## Members of a list -/

/-- The same place of a list is chosen whatever stands there. -/
theorem Draw.choose_map {α β : Type} (f : α → β) (items : List α) :
    Draw.choose (items.map f) = Option.map f <$> Draw.choose items := by
  unfold Draw.choose
  rw [List.isEmpty_map, List.length_map]
  split
  · rfl
  · simp only [map_bind, map_pure, List.getElem?_map]

/-! ## Mutation -/

namespace Mutation

theorem duplicateGene_renamed (o : Organism) :
    duplicateGene (o.renamed π) = Organism.renamedWith π <$> duplicateGene o := by
  unfold duplicateGene
  by_cases full : geneLimit ≤ o.genes.length
  · have fullToo : geneLimit ≤ (o.renamed π).genes.length := full
    rw [if_pos full, if_pos fullToo]
    rfl
  · have roomToo : ¬geneLimit ≤ (o.renamed π).genes.length := full
    rw [if_neg full, if_neg roomToo, map_bind]
    apply bind_congr
    intro drawn
    cases drawn with
    | none => rfl
    | some gene => rfl

theorem change_renamed (o : Organism) (kind : Kind) :
    change (o.renamed π) kind = Organism.renamedWith π <$> change o kind := by
  cases kind with
  | consciousness => rfl
  | coherence => rfl
  | fitnessNudge => rfl
  | geneContribution => rfl
  | geneDuplication => exact duplicateGene_renamed π o

theorem apply_renamed (o : Organism) (kind : Kind) :
    apply (o.renamed π) kind = Organism.renamedWith π <$> apply o kind := by
  simp only [apply, change_renamed, map_bind, bind_map_left]
  rfl

end Mutation

/-! ## Cycles -/

namespace Organism

theorem evolve_renamed (o : Organism) (now : Instant) :
    (o.renamed π).evolve now = renamedWith π <$> o.evolve now := by
  simp only [evolve, map_bind, renamed_evolution, Mutation.apply_renamed]
  apply bind_congr
  intro chance
  by_cases idle : o.evolution.mutationRate ≤ chance
  · rw [if_pos idle, if_pos idle]
    rfl
  · rw [if_neg idle, if_neg idle]
    simp only [map_bind, bind_map_left]
    rfl

/-- What is done with an organism that has felt something. -/
theorem settle_renamed (o : Organism) (config : HabitatConfig) (now : Instant) :
    (if (o.renamed π).isReady config now then do
        let (evolved, outcome) ← (o.renamed π).evolve now
        return (evolved, some outcome.isSome)
      else return (o.renamed π, some false) : Draw (Organism × Option Bool)) =
      renamedWith π <$>
        (if o.isReady config now then do
          let (evolved, outcome) ← o.evolve now
          return (evolved, some outcome.isSome)
        else return (o, some false)) := by
  by_cases ready : o.isReady config now = true
  · have readyToo : (o.renamed π).isReady config now = true := ready
    rw [if_pos ready, if_pos readyToo, evolve_renamed, map_bind, bind_map_left]
    rfl
  · have tooEarly : ¬(o.renamed π).isReady config now = true := ready
    rw [if_neg ready, if_neg tooEarly]
    rfl

theorem tick_renamed (o : Organism) (config : HabitatConfig) (now : Instant) :
    (o.renamed π).tick config now = renamedWith π <$> o.tick config now := by
  by_cases sick : (!o.state.isFinite) = true
  · simp only [tick, renamed_state, if_pos sick]
    rfl
  · simp only [tick, renamed_state, renamed_activeGenes, if_neg sick, map_bind]
    apply bind_congr
    rintro ⟨fitness, coherence, sound⟩
    cases sound with
    | false => rfl
    | true => exact settle_renamed π { o with state := o.tickedState config fitness coherence } _ _

end Organism

/-- A resident and what its cycle came to. -/
def Resident.renamedWith (π : Renaming) (result : Resident × CycleOutcome) :
    Resident × CycleOutcome :=
  (result.1.renamed π, result.2)

/-- A cycle of a resident does not ask for its id. -/
theorem Resident.cycle_renamed (r : Resident) (config : HabitatConfig) (now : Instant) :
    (r.renamed π).cycle config now = renamedWith π <$> r.cycle config now := by
  have sameNeed : (r.renamed π).needsRest config = r.needsRest config := rfl
  by_cases tired : r.needsRest config = true
  · have rested : (r.renamed π).rest config = renamedWith π (r.rest config) := by
      unfold rest
      by_cases fit : config.resumeEnergy ≤ (r.organism.regenerate config).state.energy
      · have fitToo : config.resumeEnergy ≤
          ((r.renamed π).organism.regenerate config).state.energy := fit
        rw [if_pos fit, if_pos fitToo]
        rfl
      · have weakToo : ¬config.resumeEnergy ≤
          ((r.renamed π).organism.regenerate config).state.energy := fit
        rw [if_neg fit, if_neg weakToo]
        rfl
    simp only [cycle, sameNeed, if_pos tired, rested, map_pure]
  · simp only [cycle, sameNeed, if_neg tired]
    show ((r.organism.renamed π).tick config now >>= _) = _
    rw [Organism.tick_renamed, map_bind, bind_map_left]
    apply bind_congr
    rintro ⟨ticked, evolved⟩
    cases evolved with
    | none => rfl
    | some evolved => rfl

/-! ## Crossover -/

theorem crossover_renamed (first second : Organism) (eliteBias : Float) :
    crossover (first.renamed π) (second.renamed π) eliteBias =
      Organism.renamed π <$> crossover first second eliteBias := rfl

end Vivarium
