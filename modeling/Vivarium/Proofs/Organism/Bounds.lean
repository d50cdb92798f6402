import Vivarium.Proofs.Organism.Normal

/-!
# Bounds

The vital values of a normal organism are numbers of the unit interval.  The contributions
of its genes are no vital values: they may be anything when an organism comes, and only a
mutation clamps the one that it moves.  If all of them lie between the limit and its
negative, they remain there.  A mutation has to give a number for that, and it does: what
is added to a contribution is drawn, and drawn doubles are numbers.

Main definitions:

* `Organism.IsBounded`: all contributions keep to the limit.

Main statements:

* `Organism.IsNormal.vitals`, `isNormal_of_vitals`: the vital values of a normal organism;
* `isBounded_of_yields_apply`: a mutation;
* `keptInCycles_isBounded`: a cycle in a habitat, also one that mends genes.
-/

namespace Vivarium

open Draw

/-! ## Vital values -/

/-- Whatever is clamped, a number of the unit interval comes out. -/
theorem clampUnit_mem (x : Float) : 0.0 ≤ clampUnit x ∧ clampUnit x ≤ 1.0 := by
  unfold clampUnit
  split
  · exact ⟨by decide, by decide⟩
  · rename_i number
    exact Number.clamp_mem (Bool.not_eq_true _ ▸ number) (by decide)

/-- The vital values of a normal organism are numbers of the unit interval. -/
theorem Organism.IsNormal.vitals {o : Organism} (normal : o.IsNormal) :
    ∀ value ∈ o.state.vitals, value.isNaN = false ∧ 0.0 ≤ value ∧ value ≤ 1.0 := by
  obtain ⟨consciousness, coherence, fitness, energy⟩ := State.isNormal_iff.mp normal
  have inside : ∀ {value : Float}, clampUnit value = value →
      value.isNaN = false ∧ 0.0 ≤ value ∧ value ≤ 1.0 := by
    intro value fixed
    have bounds := clampUnit_mem value
    rw [fixed] at bounds
    exact ⟨(Number.isNaN_of_le bounds.2).1, bounds⟩
  intro value member
  simp only [State.vitals, List.mem_cons, List.not_mem_nil, or_false] at member
  rcases member with rfl | rfl | rfl | rfl
  · exact inside consciousness
  · exact inside coherence
  · exact inside fitness
  · exact inside energy

theorem clampUnit_eq_self {x : Float} (above : 0.0 ≤ x) (below : x ≤ 1.0) : clampUnit x = x := by
  have number : x.isNaN = false := (Number.isNaN_of_le below).1
  rw [clampUnit, number, if_neg Bool.false_ne_true, Number.clamp,
    if_neg (Number.not_lt_of_le above), if_neg (Number.not_lt_of_le below)]

/-- An organism whose vital values lie in the unit interval is normal. -/
theorem Organism.isNormal_of_vitals {o : Organism}
    (inside : ∀ value ∈ o.state.vitals, 0.0 ≤ value ∧ value ≤ 1.0) : o.IsNormal := by
  have fixed : ∀ value ∈ o.state.vitals, clampUnit value = value :=
    fun value member => clampUnit_eq_self (inside value member).1 (inside value member).2
  simp only [State.vitals, List.forall_mem_cons, List.not_mem_nil, false_implies, implies_true,
    and_true] at fixed
  exact State.isNormal_iff.mpr fixed

/-! ## Genes -/

/-- The contribution keeps to the limit. -/
def Gene.IsBounded (gene : Gene) : Prop :=
  -Gene.contributionLimit ≤ gene.contribution ∧ gene.contribution ≤ Gene.contributionLimit

/-- The contribution is a finite number. -/
def Gene.IsFinite (gene : Gene) : Prop := Number.isFinite gene.contribution = true

/-- The contributions of all genes keep to the limit. -/
def Organism.IsBounded (o : Organism) : Prop := ∀ gene ∈ o.genes, gene.IsBounded

theorem Gene.IsBounded.isFinite {gene : Gene} (bounded : gene.IsBounded) : gene.IsFinite := by
  rw [Gene.IsFinite, Number.isFinite_eq_parts]
  exact Number.isFinite_of_between bounded.1 bounded.2 (by decide) (by decide)

namespace Mutation

/-- The sum of a contribution and of what is drawn is a number, so that it can be clamped. -/
theorem isBounded_of_yields_perturbGene {gene moved : Gene} {size : Float}
    (finite : gene.IsFinite) (possible : (perturbGene gene).Yields (moved, size)) :
    moved.IsBounded := by
  obtain ⟨delta, drawn, possible⟩ := yields_bind possible
  cases yields_pure.mp possible
  have number : delta.isNaN = false :=
    isNaN_of_yields_between (by decide +kernel) (by decide) (by decide) drawn
  rw [Gene.IsFinite, Number.isFinite_eq_parts] at finite
  have sum : (gene.contribution + delta).isNaN = false :=
    Number.isNaN_add (Number.isNaN_of_isFinite finite) number (Or.inl finite)
  exact Number.clamp_mem sum (by decide)

end Mutation

namespace Gene

variable {gene old : Gene}

/-- Whatever stems from a gene that keeps to the limit does so, too. -/
theorem IsBounded.of_stemsFrom (bounded : old.IsBounded) (stems : gene.StemsFrom old) :
    gene.IsBounded := by
  rcases stems.contribution with same | ⟨size, drawn⟩
  · rw [IsBounded, same]
    exact bounded
  · exact Mutation.isBounded_of_yields_perturbGene bounded.isFinite drawn

/-- Whatever stems from a gene with a finite contribution has one, too. -/
theorem IsFinite.of_stemsFrom (finite : old.IsFinite) (stems : gene.StemsFrom old) :
    gene.IsFinite := by
  rcases stems.contribution with same | ⟨size, drawn⟩
  · rw [IsFinite, same]
    exact finite
  · exact (Mutation.isBounded_of_yields_perturbGene finite drawn).isFinite

end Gene

namespace Organism

theorem isBounded_of_yields_apply {o mutated : Organism} {kind : Mutation.Kind}
    {outcome : Mutation.Outcome} (bounded : o.IsBounded)
    (possible : (Mutation.apply o kind).Yields (mutated, outcome)) : mutated.IsBounded := by
  intro gene member
  obtain ⟨old, before, stems⟩ := Mutation.stemsFrom_of_yields_apply possible gene member
  exact (bounded old before).of_stemsFrom stems

theorem isBounded_of_yields_evolve {o evolved : Organism} {now : Instant}
    {outcome : Option Mutation.Outcome} (bounded : o.IsBounded)
    (possible : (o.evolve now).Yields (evolved, outcome)) : evolved.IsBounded := by
  rcases of_yields_evolve possible with ⟨rfl, -⟩ | ⟨kind, effect, mutated, drawn, rfl, -⟩
  · exact bounded
  · have mutatedBounded : mutated.IsBounded := isBounded_of_yields_apply bounded drawn
    exact mutatedBounded

/-- A gene whose contribution is no finite number gets the initial one, which keeps to the
limit. -/
theorem isBounded_mendGene {gene : Gene} (bounded : gene.IsBounded) :
    (mendGene gene).IsBounded := by
  unfold mendGene
  split
  · exact bounded
  · have limit : -Gene.contributionLimit ≤ Gene.initialContribution ∧
        Gene.initialContribution ≤ Gene.contributionLimit := ⟨by decide, by decide⟩
    exact limit

theorem keptInCycles_isBounded (config : HabitatConfig) (now : Instant) :
    KeptInCycles config now IsBounded where
  evolved := isBounded_of_yields_evolve
  fed _ _ bounded := bounded
  recovered _ _ bounded := by
    intro gene member
    obtain ⟨old, before, rfl⟩ := List.mem_map.mp member
    exact isBounded_mendGene (bounded old before)
  regenerated bounded := bounded

end Organism

end Vivarium
