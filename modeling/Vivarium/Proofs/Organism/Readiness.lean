import Vivarium.Proofs.Organism.Normal

/-!
# When an organism evolves

A tick ends with a step of evolution only if the organism is ready for it: strong enough, and
with the wait since its last step behind it.  The step itself notes the time and works neither
on energy nor on fitness, so the strength that has made it possible can still be seen when it
is over.  Nothing else in a cycle touches the note.

Main definitions:

* `Organism.HasEvolved`: an organism after a step of evolution.

Main statements:

* `Organism.isReady_iff`: strength and wait;
* `Organism.hasEvolved_of_yields_tick`: who has evolved in a tick was ready;
* `Resident.lastEvolved_of_yields_cycle`: any other cycle leaves the note alone.
-/

namespace Vivarium

open Draw

/-- The operators of an organism's own evolution leave its energy and its fitness where they
are, up to the unit interval. -/
theorem Mutation.strength_of_yields_apply {o mutated : Organism} {kind : Kind}
    {outcome : Outcome} (own : kind ∈ Kind.own)
    (possible : (apply o kind).Yields (mutated, outcome)) :
    mutated.state.energy = clampUnit o.state.energy ∧
      mutated.state.fitness = clampUnit o.state.fitness := by
  obtain ⟨⟨changed, size⟩, drawn, possible⟩ := yields_bind possible
  cases yields_pure.mp possible
  cases kind with
  | consciousness =>
      obtain ⟨_, -, drawn⟩ := yields_bind drawn
      cases yields_pure.mp drawn
      exact ⟨rfl, rfl⟩
  | coherence =>
      obtain ⟨_, -, drawn⟩ := yields_bind drawn
      cases yields_pure.mp drawn
      exact ⟨rfl, rfl⟩
  | geneContribution =>
      obtain ⟨_, -, drawn⟩ := yields_bind drawn
      cases yields_pure.mp drawn
      exact ⟨rfl, rfl⟩
  | geneDuplication => exact absurd own (by decide)
  | fitnessNudge => exact absurd own (by decide)

namespace Organism

variable {o evolved ticked : Organism} {config : HabitatConfig} {now : Instant}

theorem isReady_iff :
    o.isReady config now = true ↔
      config.evolutionEnergyThreshold < o.state.energy ∧
        config.evolutionFitnessThreshold < o.state.fitness ∧
        (cooldownNanos config.evolutionCooldown : Int) ≤ now.since o.lastEvolved := by
  simp only [isReady, Bool.and_eq_true, decide_eq_true_iff, and_assoc]

/-- The organism has taken a step of evolution and is as strong as before it. -/
structure HasEvolved (o : Organism) (now : Instant) (evolved : Organism) : Prop where
  noted : evolved.lastEvolved = now
  energy : evolved.state.energy = clampUnit o.state.energy
  fitness : evolved.state.fitness = clampUnit o.state.fitness

theorem hasEvolved_of_yields_evolve {effect : Mutation.Outcome}
    (possible : (o.evolve now).Yields (evolved, some effect)) : o.HasEvolved now evolved := by
  rcases own_of_yields_evolve possible with ⟨-, impossible⟩ | ⟨kind, own, _, mutated, drawn, rfl, -⟩
  · cases impossible
  · obtain ⟨energy, fitness⟩ := Mutation.strength_of_yields_apply own drawn
    exact ⟨rfl, energy, fitness⟩

/-- A step of evolution that comes to nothing is none. -/
theorem eq_of_yields_evolve_none (possible : (o.evolve now).Yields (evolved, none)) :
    evolved = o := by
  rcases of_yields_evolve possible with ⟨same, -⟩ | ⟨_, _, _, -, -, impossible⟩
  · exact same
  · cases impossible

/-- Who has evolved in a tick was ready for it. -/
theorem hasEvolved_of_yields_tick (possible : (o.tick config now).Yields (ticked, some true)) :
    ∃ fitness coherence, let fed := o.fed config fitness coherence
      fed.isReady config now = true ∧ fed.state.IsNormal ∧ fed.HasEvolved now ticked := by
  rcases ready_of_yields_tick possible with
    ⟨impossible, -⟩ | ⟨fitness, coherence, ⟨-, impossible⟩ | ⟨outcome, drawn, same, ready⟩⟩
  · cases impossible
  · cases impossible
  · cases outcome with
    | none => cases same
    | some effect =>
        exact ⟨fitness, coherence, ready, State.isNormal_normalize _,
          hasEvolved_of_yields_evolve drawn⟩

/-- Who has not evolved in a tick keeps the note of the last time. -/
theorem lastEvolved_of_yields_tick (possible : (o.tick config now).Yields (ticked, some false)) :
    ticked.lastEvolved = o.lastEvolved := by
  rcases of_yields_tick possible with
    ⟨impossible, -⟩ | ⟨fitness, coherence, ⟨rfl, -⟩ | ⟨outcome, drawn, same⟩⟩
  · cases impossible
  · rfl
  · cases outcome with
    | none =>
        rw [eq_of_yields_evolve_none drawn]
        rfl
    | some => cases same

end Organism

/-- A cycle without a step of evolution leaves the note of the last one alone. -/
theorem Resident.lastEvolved_of_yields_cycle {r cycled : Resident} {config : HabitatConfig}
    {now : Instant} {outcome : CycleOutcome}
    (possible : (r.cycle config now).Yields (cycled, outcome)) (idle : outcome ≠ .ticked true) :
    cycled.organism.lastEvolved = r.organism.lastEvolved := by
  rcases outcome_of_yields_cycle possible with
    ⟨rested, -⟩ | ⟨ticked, drawn, recovered, -⟩ | ⟨evolved, drawn, rfl⟩
  · rw [rested]
    rfl
  · rcases Organism.of_yields_tick drawn with
      ⟨-, fitness, coherence, rfl⟩ | ⟨_, _, ⟨-, impossible⟩ | ⟨_, -, impossible⟩⟩
    · rw [recovered]
      rfl
    · cases impossible
    · cases impossible
  · cases evolved with
    | false => exact Organism.lastEvolved_of_yields_tick drawn
    | true => exact absurd rfl idle

end Vivarium
