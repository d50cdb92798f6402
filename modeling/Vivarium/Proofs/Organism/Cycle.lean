import Vivarium.Habitat.Cycle
import Vivarium.Proofs.Organism.Mutation

/-!
# Cycles taken apart

What an evolution, a tick and a whole cycle of an organism can come to, case by case and
for every random stream.  A fact about cycles is a fact about these cases, and does not
have to follow the draws again.

Main definitions:

* `Organism.matured`: an organism one generation on, which has evolved now;
* `Organism.fed`: an organism after a tick, before it may evolve;
* `KeptInCycles`: what the parts of a cycle keep.

Main statements:

* `own_of_yields_evolve`: nothing happens, or one mutation and the next generation;
* `ready_of_yields_tick`: a tick fails, or the organism is fed and evolves if it is ready;
* `outcome_of_yields_cycle`: a resident rests, ticks, or fails and recovers;
* `KeptInCycles.cycle`: what the parts keep, the cycle keeps.
-/

namespace Vivarium

open Draw

namespace Organism

/-- The organism one generation on, which has evolved now. -/
def matured (o : Organism) (now : Instant) : Organism :=
  { o with
    state := { o.state with generation := o.state.generation + 1 }
    lastEvolutionAt := some now }

/-- The organism after a tick in which it felt the given fitness and coherence. -/
def fed (o : Organism) (config : HabitatConfig) (fitness coherence : Float) : Organism :=
  { o with state := o.tickedState config fitness coherence }

variable {o : Organism} {config : HabitatConfig} {now : Instant}

/-- A set of operators that is not empty draws one of its own. -/
theorem mem_of_yields_drawKind {kinds : List Mutation.Kind} {kind : Mutation.Kind}
    (nonempty : kinds ≠ []) (possible : (Mutation.Kind.draw kinds).Yields kind) :
    kind ∈ kinds := by
  obtain ⟨chosen, choice, possible⟩ := yields_bind possible
  obtain ⟨member, among, rfl⟩ := mem_of_yields_choose nonempty choice
  rw [yields_pure.mp possible]
  exact among

/-- An organism that evolves mutates by one of its own operators. -/
theorem own_of_yields_evolve {evolved : Organism} {outcome : Option Mutation.Outcome}
    (possible : (o.evolve now).Yields (evolved, outcome)) :
    (evolved = o ∧ outcome = none) ∨
      ∃ kind ∈ Mutation.Kind.own, ∃ effect mutated,
        (Mutation.apply o kind).Yields (mutated, effect) ∧
          evolved = mutated.matured now ∧ outcome = some effect := by
  obtain ⟨chance, -, possible⟩ := yields_bind possible
  split at possible
  · cases yields_pure.mp possible
    exact Or.inl ⟨rfl, rfl⟩
  · obtain ⟨kind, choice, possible⟩ := yields_bind possible
    obtain ⟨⟨mutated, effect⟩, drawn, possible⟩ := yields_bind possible
    cases yields_pure.mp possible
    exact Or.inr ⟨kind, mem_of_yields_drawKind (by decide) choice, effect, mutated, drawn, rfl,
      rfl⟩

/-- Often it does not matter which operator it is. -/
theorem of_yields_evolve {evolved : Organism} {outcome : Option Mutation.Outcome}
    (possible : (o.evolve now).Yields (evolved, outcome)) :
    (evolved = o ∧ outcome = none) ∨
      ∃ kind effect mutated, (Mutation.apply o kind).Yields (mutated, effect) ∧
        evolved = mutated.matured now ∧ outcome = some effect :=
  (own_of_yields_evolve possible).imp_right fun ⟨kind, _, rest⟩ => ⟨kind, rest⟩

/-- A tick that fails leaves what was felt so far, and only who is ready after it evolves. -/
theorem ready_of_yields_tick {ticked : Organism} {evolved : Option Bool}
    (possible : (o.tick config now).Yields (ticked, evolved)) :
    (evolved = none ∧ ∃ fitness coherence, ticked = o.withFeeling fitness coherence) ∨
      ∃ fitness coherence,
        (ticked = o.fed config fitness coherence ∧ evolved = some false) ∨
          ∃ outcome, ((o.fed config fitness coherence).evolve now).Yields (ticked, outcome) ∧
            evolved = some outcome.isSome ∧
            (o.fed config fitness coherence).isReady config now = true := by
  unfold tick at possible
  split at possible
  · cases yields_pure.mp possible
    exact Or.inl ⟨rfl, o.state.fitness, o.state.quantumCoherence, rfl⟩
  obtain ⟨⟨fitness, coherence, sound⟩, -, possible⟩ := yields_bind possible
  dsimp only at possible
  split at possible
  · cases yields_pure.mp possible
    exact Or.inl ⟨rfl, fitness, coherence, rfl⟩
  refine Or.inr ⟨fitness, coherence, ?_⟩
  split at possible
  · rename_i ready
    obtain ⟨⟨evolved, outcome⟩, drawn, possible⟩ := yields_bind possible
    cases yields_pure.mp possible
    exact Or.inr ⟨outcome, drawn, rfl, ready⟩
  · cases yields_pure.mp possible
    exact Or.inl ⟨rfl, rfl⟩

/-- Often it does not matter who is ready. -/
theorem of_yields_tick {ticked : Organism} {evolved : Option Bool}
    (possible : (o.tick config now).Yields (ticked, evolved)) :
    (evolved = none ∧ ∃ fitness coherence, ticked = o.withFeeling fitness coherence) ∨
      ∃ fitness coherence,
        (ticked = o.fed config fitness coherence ∧ evolved = some false) ∨
          ∃ outcome, ((o.fed config fitness coherence).evolve now).Yields (ticked, outcome) ∧
            evolved = some outcome.isSome := by
  refine (ready_of_yields_tick possible).imp_right ?_
  rintro ⟨fitness, coherence, fed | ⟨outcome, drawn, same, -⟩⟩
  · exact ⟨fitness, coherence, Or.inl fed⟩
  · exact ⟨fitness, coherence, Or.inr ⟨outcome, drawn, same⟩⟩

end Organism

/-- A resident rests, or it ticks, or it ticks in vain and recovers; the outcome tells which. -/
theorem Resident.outcome_of_yields_cycle {r cycled : Resident} {config : HabitatConfig}
    {now : Instant} {outcome : CycleOutcome}
    (possible : (r.cycle config now).Yields (cycled, outcome)) :
    (cycled.organism = r.organism.regenerate config ∧ (outcome = .resting ∨ outcome = .resumed)) ∨
      (∃ ticked, (r.organism.tick config now).Yields (ticked, none) ∧
        cycled.organism = ticked.recover config ∧ outcome = .failed) ∨
      ∃ evolved, (r.organism.tick config now).Yields (cycled.organism, some evolved) ∧
        outcome = .ticked evolved := by
  unfold Resident.cycle at possible
  split at possible
  · refine Or.inl ?_
    have rested := yields_pure.mp possible
    unfold Resident.rest at rested
    dsimp only at rested
    split at rested
    · cases rested
      exact ⟨rfl, Or.inr rfl⟩
    · cases rested
      exact ⟨rfl, Or.inl rfl⟩
  · obtain ⟨⟨ticked, evolved⟩, drawn, possible⟩ := yields_bind possible
    cases evolved with
    | none =>
        cases yields_pure.mp possible
        exact Or.inr (Or.inl ⟨ticked, drawn, rfl, rfl⟩)
    | some evolved =>
        cases yields_pure.mp possible
        exact Or.inr (Or.inr ⟨evolved, drawn, rfl⟩)

/-- A resident rests, or it ticks and recovers if the tick has failed. -/
theorem Resident.of_yields_cycle {r cycled : Resident} {config : HabitatConfig} {now : Instant}
    {outcome : CycleOutcome} (possible : (r.cycle config now).Yields (cycled, outcome)) :
    cycled.organism = r.organism.regenerate config ∨
      ∃ ticked evolved, (r.organism.tick config now).Yields (ticked, evolved) ∧
        cycled.organism = if evolved.isSome then ticked else ticked.recover config := by
  rcases outcome_of_yields_cycle possible with
    ⟨rested, -⟩ | ⟨ticked, drawn, recovered, -⟩ | ⟨evolved, drawn, -⟩
  · exact Or.inl rested
  · exact Or.inr ⟨ticked, none, drawn, recovered⟩
  · exact Or.inr ⟨cycled.organism, some evolved, drawn, rfl⟩

/-- Each part of a cycle keeps the trait.  A tick that fails is only looked at after the
organism has recovered. -/
structure KeptInCycles (config : HabitatConfig) (now : Instant) (Trait : Organism → Prop) :
    Prop where
  evolved : ∀ {o evolved outcome}, Trait o → (o.evolve now).Yields (evolved, outcome) →
    Trait evolved
  fed : ∀ {o} fitness coherence, Trait o → Trait (o.fed config fitness coherence)
  recovered : ∀ {o} fitness coherence, Trait o →
    Trait ((o.withFeeling fitness coherence).recover config)
  regenerated : ∀ {o}, Trait o → Trait (o.regenerate config)

/-- What holds of something that a cycle does not change is kept by the cycle. -/
theorem KeptInCycles.of_eq {α : Type} {f : Organism → α} {config : HabitatConfig} {now : Instant}
    (unchanged : ∀ value, KeptInCycles config now fun o => f o = value) (Property : α → Prop) :
    KeptInCycles config now fun o => Property (f o) where
  evolved {o _ _} holds possible := ((unchanged (f o)).evolved rfl possible).symm ▸ holds
  fed {o} fitness coherence holds := ((unchanged (f o)).fed fitness coherence rfl).symm ▸ holds
  recovered {o} fitness coherence holds :=
    ((unchanged (f o)).recovered fitness coherence rfl).symm ▸ holds
  regenerated {o} holds := ((unchanged (f o)).regenerated rfl).symm ▸ holds

theorem KeptInCycles.cycle {Trait : Organism → Prop} {r cycled : Resident}
    {config : HabitatConfig} {now : Instant} {outcome : CycleOutcome}
    (kept : KeptInCycles config now Trait) (before : Trait r.organism)
    (possible : (r.cycle config now).Yields (cycled, outcome)) : Trait cycled.organism := by
  rcases Resident.of_yields_cycle possible with rested | ⟨ticked, evolved, drawn, same⟩
  · rw [rested]
    exact kept.regenerated before
  · rw [same]
    rcases Organism.of_yields_tick drawn with
      ⟨rfl, fitness, coherence, rfl⟩ | ⟨fitness, coherence, ⟨rfl, rfl⟩ | ⟨effect, matured, rfl⟩⟩
    · exact kept.recovered fitness coherence before
    · exact kept.fed fitness coherence before
    · exact kept.evolved (kept.fed fitness coherence before) matured

end Vivarium
