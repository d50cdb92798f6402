import Mathlib.Data.List.Basic
import Vivarium.Proofs.Organism.Bounds

/-!
# What an operator touches

A mutation writes to one place of an organism, counts itself, and then brings all vital
values back into the unit interval.  The last step could touch everything: but if the values
lie in the interval already, it changes nothing, since what an operator has written there was
clamped.  A mutated organism is then the changed one, counted, and it can be told from the old
one in the place that the operator is for, and nowhere else.

The count of mutations and the numbers of genes are words.  One more than the last word is zero,
so what is said of a greater count, or of a number above the others, asks for room.

Main statements:

* `Mutation.Changes.isNormal`: a change leaves the vital values in the unit interval;
* `Mutation.Changes.of_geneContribution`, `of_geneDuplication`: what becomes of the genes;
* `Mutation.eq_count_of_yields_apply`: the change, counted, is all that there is;
* `Mutation.apply_touches_target`: what each operator leaves alone, and what it changes.
-/

namespace Vivarium

theorem Organism.activeGenes_ne_nil {o : Organism} :
    o.activeGenes ≠ [] ↔ ∃ gene ∈ o.genes, gene.active = true := by
  simp [activeGenes]

open Draw Number

namespace Mutation

variable {o changed mutated : Organism} {kind : Kind} {outcome : Outcome} {size : Float}

/-- What a vital value is moved to lies in the unit interval. -/
theorem clampUnit_of_yields_perturb {value bound moved : Float}
    (possible : (perturb value bound).Yields (moved, size)) : clampUnit moved = moved := by
  obtain ⟨delta, -, possible⟩ := yields_bind possible
  cases yields_pure.mp possible
  exact clampUnit_clampUnit _

/-- The vital values are in the unit interval behind a change if they were before it. -/
theorem Changes.isNormal (changes : Changes o kind changed size) (normal : o.IsNormal) :
    changed.IsNormal := by
  obtain ⟨consciousness, coherence, fitness, energy⟩ := State.isNormal_iff.mp normal
  cases changes with
  | consciousness drawn =>
      have clamped := clampUnit_of_yields_perturb drawn
      exact State.isNormal_iff.mpr ⟨clamped, coherence, fitness, energy⟩
  | coherence drawn =>
      have clamped := clampUnit_of_yields_perturb drawn
      exact State.isNormal_iff.mpr ⟨consciousness, clamped, fitness, energy⟩
  | fitness drawn =>
      have clamped := clampUnit_of_yields_perturb drawn
      exact State.isNormal_iff.mpr ⟨consciousness, coherence, clamped, energy⟩
  | contribution => exact normal
  | duplication => exact normal
  | noDuplication => exact normal

/-- Whatever an operator changes, what is no target of any stays as it is. -/
theorem Changes.frame (changes : Changes o kind changed size) :
    let mutated := count changed
    mutated.state.mutations = o.state.mutations + 1 ∧
      mutated.state.generation = o.state.generation ∧ mutated.state.energy = o.state.energy ∧
      mutated.id = o.id ∧ mutated.name = o.name ∧ mutated.workflow = o.workflow ∧
      mutated.evolution = o.evolution ∧ mutated.createdAt = o.createdAt ∧
      mutated.lastEvolutionAt = o.lastEvolutionAt := by
  cases changes <;> exact ⟨rfl, rfl, rfl, rfl, rfl, rfl, rfl, rfl, rfl⟩

/-- The contribution of one gene is moved, if there is a gene. -/
theorem Changes.of_geneContribution (changes : Changes o .geneContribution changed size) :
    (o.genes = [] → changed = o ∧ size = 0.0) ∧
      (o.genes ≠ [] → ∃ place gene moved, o.genes[place]? = some gene ∧
        changed = { o with genes := o.genes.set place { gene with contribution := moved } }) := by
  cases changes with
  | contribution drawn =>
      rcases of_yields_perturbGenes drawn with
        ⟨none, rfl, still⟩ | ⟨place, gene, moved, found, moves, rfl⟩
      · exact ⟨fun _ => ⟨by rw [← none], still⟩, fun some => absurd none some⟩
      · refine ⟨fun none => ?_, fun _ => ?_⟩
        · rw [none] at found
          cases found
        · rw [of_yields_perturbGene moves]
          exact ⟨place, gene, moved.contribution, found, rfl⟩

/-- An active gene is copied under a new number, if there is one and if there is room. -/
theorem Changes.of_geneDuplication (changes : Changes o .geneDuplication changed size) :
    (¬(o.genes.length < geneLimit ∧ o.activeGenes ≠ []) → changed = o ∧ size = 0.0) ∧
      (o.genes.length < geneLimit ∧ o.activeGenes ≠ [] → ∃ gene ∈ o.genes, gene.active = true ∧
        ∃ id name, ((∀ old ∈ o.genes, HasRoom old.id 1) → ∀ old ∈ o.genes, old.id < id) ∧
          changed = { o with genes := o.genes ++ [{ gene with id, name }] }) := by
  cases changes with
  | @duplication gene active room =>
      obtain ⟨member, switchedOn⟩ := List.mem_filter.mp active
      refine ⟨fun impossible => absurd ⟨room, List.ne_nil_of_mem active⟩ impossible, fun _ => ?_⟩
      exact ⟨gene, member, switchedOn, o.nextGeneId, _,
        fun free _ before => Organism.id_lt_nextGeneId free before, rfl⟩
  | noDuplication nothing =>
      refine ⟨fun _ => ⟨rfl, rfl⟩, ?_⟩
      rintro ⟨room, active⟩
      rcases nothing with full | inactive
      · exact absurd room (Nat.not_lt_of_le full)
      · exact absurd inactive active

/-- A normal organism is changed and counted, and normalizing does nothing to it. -/
theorem eq_count_of_yields_apply (normal : o.IsNormal)
    (possible : (apply o kind).Yields (mutated, outcome)) :
    ∃ changed, Changes o kind changed outcome.magnitude ∧ mutated = count changed := by
  obtain ⟨changed, changes, -, rfl⟩ := of_yields_apply possible
  have counted : (count changed).IsNormal := State.IsNormal.of_vitals (changes.isNormal normal) rfl
  exact ⟨changed, changes, Organism.normalize_eq_self.mpr counted⟩

/-- Each operator touches only its target.  Every mutation is counted.  Three operators change
one vital value each, one the contribution of a gene, and one puts a gene behind the others,
if there are not too many and one of them is active.  The counts and the numbers of genes are
words: what is said of them is said as long as they can be counted up. -/
theorem apply_touches_target (o : Organism)
    (inside : ∀ value ∈ o.state.vitals, 0.0 ≤ value ∧ value ≤ 1.0) (kind : Kind) (rng : Rng) :
    let mutated := ((apply o kind).run rng).1.1
    let magnitude := ((apply o kind).run rng).1.2.magnitude
    let duplicates := o.genes.length < 10 ∧ ∃ gene ∈ o.genes, gene.active = true
    ((HasRoom o.state.mutations 1 →
        mutated.state.mutations.toNat = o.state.mutations.toNat + 1) ∧
      mutated.state.generation = o.state.generation ∧ mutated.state.energy = o.state.energy ∧
      mutated.id = o.id ∧ mutated.name = o.name ∧ mutated.workflow = o.workflow ∧
      mutated.evolution = o.evolution ∧ mutated.createdAt = o.createdAt ∧
      mutated.lastEvolutionAt = o.lastEvolutionAt) ∧
    (kind = .consciousness →
      ∃ moved, mutated = { count o with state.consciousness := moved }) ∧
    (kind = .coherence →
      ∃ moved, mutated = { count o with state.quantumCoherence := moved }) ∧
    (kind = .fitnessNudge →
      ∃ moved, mutated = { count o with state.fitness := moved }) ∧
    (kind = .geneContribution →
      (o.genes = [] → mutated = count o ∧ magnitude = 0.0) ∧
        (o.genes ≠ [] → ∃ place gene moved, o.genes[place]? = some gene ∧
          mutated = { count o with
            genes := o.genes.set place { gene with contribution := moved } })) ∧
    (kind = .geneDuplication →
      (¬duplicates → mutated = count o ∧ magnitude = 0.0) ∧
        (duplicates → ∃ gene ∈ o.genes, gene.active = true ∧ ∃ id name,
          ((∀ old ∈ o.genes, HasRoom old.id 1) → ∀ old ∈ o.genes, old.id < id) ∧
            mutated = { count o with genes := o.genes ++ [{ gene with id, name }] })) := by
  intro mutated magnitude duplicates
  obtain ⟨changed, changes, same⟩ :
      ∃ changed, Changes o kind changed magnitude ∧ mutated = count changed :=
    eq_count_of_yields_apply (Organism.isNormal_of_vitals inside) (yields_run (apply o kind) rng)
  clear_value mutated magnitude
  subst same
  have duplicates_iff : duplicates ↔ o.genes.length < geneLimit ∧ o.activeGenes ≠ [] :=
    and_congr_right' Organism.activeGenes_ne_nil.symm
  obtain ⟨mutations, frame⟩ := changes.frame
  have counted : HasRoom o.state.mutations 1 →
      (count changed).state.mutations.toNat = o.state.mutations.toNat + 1 := by
    intro room
    rw [mutations, toNat_succ_of_hasRoom room]
  refine ⟨⟨counted, frame⟩, ?consciousness, ?coherence, ?fitness, ?contribution, ?duplication⟩
  case consciousness =>
    rintro rfl
    cases changes with
    | @consciousness moved _ _ => exact ⟨moved, rfl⟩
  case coherence =>
    rintro rfl
    cases changes with
    | @coherence moved _ _ => exact ⟨moved, rfl⟩
  case fitness =>
    rintro rfl
    cases changes with
    | @fitness moved _ _ => exact ⟨moved, rfl⟩
  case contribution =>
    rintro rfl
    obtain ⟨nothing, moves⟩ := changes.of_geneContribution
    refine ⟨fun none => ?_, fun some => ?_⟩
    · obtain ⟨rfl, still⟩ := nothing none
      exact ⟨rfl, still⟩
    · obtain ⟨place, gene, moved, found, rfl⟩ := moves some
      exact ⟨place, gene, moved, found, rfl⟩
  case duplication =>
    rintro rfl
    obtain ⟨nothing, copies⟩ := changes.of_geneDuplication
    rw [duplicates_iff]
    refine ⟨fun unable => ?_, fun able => ?_⟩
    · obtain ⟨rfl, still⟩ := nothing unable
      exact ⟨rfl, still⟩
    · obtain ⟨gene, member, active, id, name, fresh, rfl⟩ := copies able
      exact ⟨gene, member, active, id, name, fresh, rfl⟩

/-- An organism that can grow a third gene. -/
def triton : Organism :=
  { Organism.newborn "Triton" ⟨0, 0⟩ with
    genes :=
      [⟨1, "crest", .sensor, "", false, 0.5⟩, ⟨7, "tail", .actuator, "swim();", true, 0.25⟩] }

/-- Its only active gene is duplicated. -/
theorem apply_touches_target_triton :
    let mutated := ((apply triton .geneDuplication).run (Rng.ofSeed 5)).1.1
    mutated.state.mutations.toNat = 1 ∧
      ∃ id name, 7 < id ∧
        mutated.genes = triton.genes ++ [⟨id, name, .actuator, "swim();", true, 0.25⟩] := by
  intro mutated
  have inside : ∀ value ∈ triton.state.vitals, 0.0 ≤ value ∧ value ≤ 1.0 := by decide +kernel
  obtain ⟨⟨counted, -⟩, -, -, -, -, duplication⟩ :=
    apply_touches_target triton inside .geneDuplication (Rng.ofSeed 5)
  have active : triton.genes.length < 10 ∧ ∃ gene ∈ triton.genes, gene.active = true := by
    decide +kernel
  obtain ⟨gene, member, switchedOn, id, name, fresh, same⟩ := (duplication rfl).2 active
  have tail : gene = ⟨7, "tail", .actuator, "swim();", true, 0.25⟩ := by
    rcases List.mem_pair.mp member with rfl | rfl
    · cases switchedOn
    · rfl
  subst tail
  have free : ∀ old ∈ triton.genes, HasRoom old.id 1 := by decide
  have genes : mutated.genes =
      triton.genes ++ [⟨id, name, .actuator, "swim();", true, 0.25⟩] :=
    congrArg Organism.genes same
  exact ⟨counted (by decide), id, name, fresh free _ member, genes⟩

/-- An organism with a gene that is copied, and with nothing left to count. -/
def olm : Organism :=
  { triton with
    state.mutations := 0xffffffffffffffff
    genes := [⟨0xffffffffffffffff, "tail", .actuator, "swim();", true, 0.25⟩] }

/-- Its mutations and the number of its new gene start over. -/
theorem not_counted_olm :
    let mutated := ((apply olm .geneDuplication).run (Rng.ofSeed 5)).1.1
    mutated.state.mutations.toNat ≠ olm.state.mutations.toNat + 1 ∧
      ∃ old ∈ olm.genes, ∃ new ∈ mutated.genes, new ∉ olm.genes ∧ ¬old.id < new.id := by
  decide +kernel

end Mutation

end Vivarium
