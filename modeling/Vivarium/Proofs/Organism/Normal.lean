import Vivarium.Breeding.Selection
import Vivarium.Proofs.Organism.Cycle

/-!
# Normal organisms

A state is *normal* when normalizing it changes nothing, that is, when its vital
values lie in the unit interval already.  An organism is normalized when it
enters a habitat or a population, and from then on it stays normal: every
operation clamps what it writes.  Only the cases of the clamp are used, never a
law of the arithmetic in front of it.

Main statements:

* `isNormal_iff`: a state is normal value by value;
* `keptInCycles_isNormal`: a cycle in a habitat, also one that fails;
* `keptInCycles_id`: an organism remains the one it is in such a cycle;
* `isNormal_scored`, `isNormal_of_yields_apply`: scoring and mutating.
-/

namespace Vivarium

/-- Clamping twice is clamping: the three results of the clamp that are not the
number itself are its own fixed points. -/
@[simp]
theorem clampUnit_clampUnit (x : Float) : clampUnit (clampUnit x) = clampUnit x := by
  have fixedZero : clampUnit 0.0 = 0.0 := by decide
  have fixedOne : clampUnit 1.0 = 1.0 := by decide
  by_cases notNumber : x.isNaN = true
  · have clamped : clampUnit x = 0.0 := if_pos notNumber
    rw [clamped, fixedZero]
  · have numeric : clampUnit x = Number.clamp x 0.0 1.0 := if_neg notNumber
    by_cases below : x < 0.0
    · have clamped : clampUnit x = 0.0 := numeric.trans (if_pos below)
      rw [clamped, fixedZero]
    · by_cases above : 1.0 < x
      · have clamped : clampUnit x = 1.0 := by
          rw [numeric, Number.clamp, if_neg below, if_pos above]
        rw [clamped, fixedOne]
      · have clamped : clampUnit x = x := by
          rw [numeric, Number.clamp, if_neg below, if_neg above]
        rw [clamped, clamped]

/-! ## States -/

/-- Normalizing changes nothing. -/
def State.IsNormal (s : State) : Prop := s.normalize = s

theorem State.isNormal_iff {s : State} :
    s.IsNormal ↔ clampUnit s.consciousness = s.consciousness ∧
      clampUnit s.quantumCoherence = s.quantumCoherence ∧
      clampUnit s.fitness = s.fitness ∧ clampUnit s.energy = s.energy := by
  obtain ⟨consciousness, coherence, fitness, energy, mutations, generation⟩ := s
  simp [State.IsNormal, State.normalize]

theorem State.isNormal_normalize (s : State) : s.normalize.IsNormal := by
  simp [State.isNormal_iff, State.normalize]

/-- Only the vital values count. -/
theorem State.IsNormal.of_vitals {s t : State} (normal : s.IsNormal)
    (same : t.vitals = s.vitals) : t.IsNormal := by
  simp only [State.vitals, List.cons.injEq, and_true] at same
  obtain ⟨consciousness, coherence, fitness, energy⟩ := same
  rw [State.isNormal_iff] at normal ⊢
  rwa [consciousness, coherence, fitness, energy]

/-! ## Organisms -/

namespace Organism

/-- The vital values of the organism lie in the unit interval. -/
def IsNormal (o : Organism) : Prop := o.state.IsNormal

theorem normalize_eq_self {o : Organism} : o.normalize = o ↔ o.IsNormal := by
  obtain ⟨id, name, state, genes, workflow, evolution, createdAt, lastEvolutionAt⟩ := o
  simp [Organism.normalize, Organism.IsNormal, State.IsNormal]

theorem isNormal_normalize (o : Organism) : o.normalize.IsNormal :=
  State.isNormal_normalize o.state

theorem isNormal_successor {o : Organism} (normal : o.IsNormal) (now : Instant) :
    (o.successor now).IsNormal :=
  State.IsNormal.of_vitals normal rfl

/-! ## Cycles in a habitat -/

theorem isNormal_of_yields_apply {o mutated : Organism} {kind : Mutation.Kind}
    {outcome : Mutation.Outcome} (possible : (Mutation.apply o kind).Yields (mutated, outcome)) :
    mutated.IsNormal := by
  obtain ⟨body, rfl, -, -⟩ := Mutation.eq_withBody_of_yields_apply possible
  exact isNormal_normalize _

theorem isNormal_of_yields_evolve {o evolved : Organism} {now : Instant}
    {outcome : Option Mutation.Outcome} (normal : o.IsNormal)
    (possible : (o.evolve now).Yields (evolved, outcome)) : evolved.IsNormal := by
  rcases of_yields_evolve possible with ⟨rfl, -⟩ | ⟨kind, effect, mutated, drawn, rfl, -⟩
  · exact normal
  · exact State.IsNormal.of_vitals (isNormal_of_yields_apply drawn) rfl

theorem isNormal_recover (o : Organism) (config : HabitatConfig) :
    (o.recover config).IsNormal := by
  obtain ⟨-, coherence, fitness, energy⟩ :=
    State.isNormal_iff.mp (show o.state.heal.IsNormal from State.isNormal_normalize _)
  exact State.isNormal_iff.mpr ⟨clampUnit_clampUnit _, coherence, fitness, energy⟩

theorem isNormal_regenerate {o : Organism} (normal : o.IsNormal) (config : HabitatConfig) :
    (o.regenerate config).IsNormal := by
  obtain ⟨consciousness, coherence, fitness, -⟩ := State.isNormal_iff.mp normal
  exact State.isNormal_iff.mpr ⟨consciousness, coherence, fitness, clampUnit_clampUnit _⟩

/-- An organism that enters a cycle normal leaves it normal: what a tick feeds it is
clamped, and a tick that fails is healed. -/
theorem keptInCycles_isNormal (config : HabitatConfig) (now : Instant) :
    KeptInCycles config now IsNormal where
  evolved := isNormal_of_yields_evolve
  fed _ _ _ := State.isNormal_normalize _
  recovered _ _ _ := isNormal_recover _ config
  regenerated normal := isNormal_regenerate normal config

/-! ## Identity -/

theorem id_of_yields_evolve {o evolved : Organism} {now : Instant}
    {outcome : Option Mutation.Outcome}
    (possible : (o.evolve now).Yields (evolved, outcome)) : evolved.id = o.id := by
  rcases of_yields_evolve possible with ⟨rfl, -⟩ | ⟨kind, effect, mutated, drawn, rfl, -⟩
  · rfl
  · obtain ⟨body, rfl, -, -⟩ := Mutation.eq_withBody_of_yields_apply drawn
    rfl

/-- A cycle does not make another organism of a resident. -/
theorem keptInCycles_id (config : HabitatConfig) (now : Instant) (id : OrganismId) :
    KeptInCycles config now fun o => o.id = id where
  evolved keyed possible := (id_of_yields_evolve possible).trans keyed
  fed _ _ keyed := keyed
  recovered _ _ keyed := keyed
  regenerated keyed := keyed

/-! ## Breeding -/

/-- Constraints end in a clamp or in zero. -/
theorem clampUnit_constrain (s : State) (score : Float) (constraints : List Constraint) :
    clampUnit (Landscape.constrain s score constraints) =
      Landscape.constrain s score constraints := by
  induction constraints generalizing score with
  | nil => exact clampUnit_clampUnit score
  | cons c rest inductionHypothesis =>
      unfold Landscape.constrain
      split
      · exact inductionHypothesis score
      · split
        · decide
        · exact inductionHypothesis _

theorem isNormal_scored {o : Organism} (normal : o.IsNormal) (l : Landscape) :
    (o.scored l).IsNormal := by
  obtain ⟨consciousness, coherence, -, energy⟩ := State.isNormal_iff.mp normal
  exact State.isNormal_iff.mpr
    ⟨consciousness, coherence, clampUnit_constrain _ _ _, energy⟩

end Organism

end Vivarium
