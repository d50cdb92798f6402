import Vivarium.Organism.Crossover
import Vivarium.Organism.Mutation
import Vivarium.Proofs.Random.Draw

/-!
# What variation leaves alone

Mutation and crossover work on the state and the genes of an organism.  Whoever
it is, when it was born and how it evolves stays what it was, whichever operator
is drawn and whatever the stream says.

Main statements:

* `changes_of_yields_change`: what each operator can make of an organism;
* `eq_withBody_of_yields_apply`: a mutated organism is the old one with another
  body, one mutation more and the same generation;
* `changesGenes_of_yields_apply`: what each operator can make of the genes;
* `stemsFrom_of_yields_apply`: where the genes of a mutated organism come from;
* `eq_withBody_of_yields_crossover`: a crossed child is its first parent with
  another body.
-/

namespace Vivarium

/-- The part of an organism that variation works on. -/
structure Body where
  state : State
  genes : List Gene

namespace Organism

/-- The organism with another body. -/
def withBody (o : Organism) (body : Body) : Organism :=
  { o with state := body.state, genes := body.genes }

end Organism

open Draw

/-- A gene was made of another one: it is active if that one is, and contributes as much, or
what a perturbation makes of it. -/
structure Gene.StemsFrom (gene old : Gene) : Prop where
  active : gene.active = old.active
  contribution : gene.contribution = old.contribution ∨
    ∃ size, (Mutation.perturbGene old).Yields (gene, size)

theorem Gene.StemsFrom.refl (gene : Gene) : gene.StemsFrom gene := ⟨rfl, Or.inl rfl⟩

namespace Mutation

/-- A gene is perturbed in its contribution alone. -/
theorem of_yields_perturbGene {gene moved : Gene} {size : Float}
    (possible : (perturbGene gene).Yields (moved, size)) :
    moved = { gene with contribution := moved.contribution } := by
  obtain ⟨delta, -, possible⟩ := yields_bind possible
  cases yields_pure.mp possible
  rfl

/-- Without genes there is nothing to perturb, and else one of them is. -/
theorem of_yields_perturbGenes {genes moved : List Gene} {size : Float}
    (possible : (perturbGenes genes).Yields (moved, size)) :
    (genes = [] ∧ moved = [] ∧ size = 0.0) ∨
      ∃ place old gene, genes[place]? = some old ∧ (perturbGene old).Yields (gene, size) ∧
        moved = genes.set place gene := by
  unfold perturbGenes at possible
  split at possible
  · rename_i empty
    cases yields_pure.mp possible
    obtain rfl := List.isEmpty_iff.mp empty
    exact Or.inl ⟨rfl, rfl, rfl⟩
  · rename_i nonempty
    obtain ⟨place, drawn, possible⟩ := yields_bind possible
    have positive : 0 < genes.length :=
      List.length_pos_iff.mpr (mt List.isEmpty_iff.mpr nonempty)
    obtain ⟨old, found⟩ : ∃ old, genes[place]? = some old :=
      ⟨_, List.getElem?_eq_getElem (lt_of_yields_below64 positive drawn)⟩
    rw [found] at possible
    obtain ⟨⟨gene, by_⟩, drawn, possible⟩ := yields_bind possible
    cases yields_pure.mp possible
    exact Or.inr ⟨place, old, gene, found, drawn, rfl⟩

/-- What an operator may make of an organism, and the size of the change. -/
inductive Changes (o : Organism) : Kind → Organism → Float → Prop where
  | consciousness {moved size : Float}
      (drawn : (perturb o.state.consciousness statePerturbation).Yields (moved, size)) :
      Changes o .consciousness { o with state := { o.state with consciousness := moved } } size
  | coherence {moved size : Float}
      (drawn : (perturb o.state.quantumCoherence statePerturbation).Yields (moved, size)) :
      Changes o .coherence { o with state := { o.state with quantumCoherence := moved } } size
  | fitness {moved size : Float}
      (drawn : (perturb o.state.fitness fitnessPerturbation).Yields (moved, size)) :
      Changes o .fitnessNudge { o with state := { o.state with fitness := moved } } size
  | contribution {genes : List Gene} {size : Float}
      (drawn : (perturbGenes o.genes).Yields (genes, size)) :
      Changes o .geneContribution { o with genes := genes } size
  | duplication {gene : Gene} (active : gene ∈ o.activeGenes)
      (room : o.genes.length < geneLimit) :
      Changes o .geneDuplication { o with genes := o.genes ++ [duplicate gene o.nextGeneId] }
        gene.contribution.abs
  | noDuplication (nothing : geneLimit ≤ o.genes.length ∨ o.activeGenes = []) :
      Changes o .geneDuplication o 0.0

/-- An active gene is duplicated, unless there is none or no room for its copy. -/
theorem changes_of_yields_duplicateGene {o changed : Organism} {size : Float}
    (possible : (duplicateGene o).Yields (changed, size)) :
    Changes o .geneDuplication changed size := by
  unfold duplicateGene at possible
  split at possible
  · rename_i full
    cases yields_pure.mp possible
    exact .noDuplication (Or.inl full)
  · rename_i room
    obtain ⟨chosen, choice, possible⟩ := yields_bind possible
    by_cases inactive : o.activeGenes = []
    · rw [inactive] at choice
      obtain rfl := yields_choose_nil choice
      cases yields_pure.mp possible
      exact .noDuplication (Or.inr inactive)
    · obtain ⟨gene, active, rfl⟩ := mem_of_yields_choose inactive choice
      cases yields_pure.mp possible
      exact .duplication active (Nat.lt_of_not_le room)

theorem changes_of_yields_change {o changed : Organism} {kind : Kind} {size : Float}
    (possible : (change o kind).Yields (changed, size)) : Changes o kind changed size := by
  cases kind with
  | consciousness =>
      obtain ⟨⟨moved, by_⟩, drawn, possible⟩ := yields_bind possible
      cases yields_pure.mp possible
      exact .consciousness drawn
  | coherence =>
      obtain ⟨⟨moved, by_⟩, drawn, possible⟩ := yields_bind possible
      cases yields_pure.mp possible
      exact .coherence drawn
  | fitnessNudge =>
      obtain ⟨⟨moved, by_⟩, drawn, possible⟩ := yields_bind possible
      cases yields_pure.mp possible
      exact .fitness drawn
  | geneContribution =>
      obtain ⟨⟨genes, by_⟩, drawn, possible⟩ := yields_bind possible
      cases yields_pure.mp possible
      exact .contribution drawn
  | geneDuplication => exact changes_of_yields_duplicateGene possible

/-- A mutation is a change that is counted, and then normalized. -/
theorem of_yields_apply {o mutated : Organism} {kind : Kind} {outcome : Outcome}
    (possible : (apply o kind).Yields (mutated, outcome)) :
    ∃ changed, Changes o kind changed outcome.magnitude ∧ outcome.kind = kind ∧
      mutated = (count changed).normalize := by
  obtain ⟨⟨changed, size⟩, drawn, possible⟩ := yields_bind possible
  cases yields_pure.mp possible
  exact ⟨changed, changes_of_yields_change drawn, rfl, rfl⟩

/-- An operator changes the body alone, and in it neither of the two counts. -/
theorem Changes.eq_withBody {o changed : Organism} {kind : Kind} {size : Float}
    (changes : Changes o kind changed size) :
    ∃ body : Body, changed = o.withBody body ∧
      body.state.mutations = o.state.mutations ∧
      body.state.generation = o.state.generation := by
  refine ⟨⟨changed.state, changed.genes⟩, ?_⟩
  cases changes with
  | consciousness => exact ⟨rfl, rfl, rfl⟩
  | coherence => exact ⟨rfl, rfl, rfl⟩
  | fitness => exact ⟨rfl, rfl, rfl⟩
  | contribution => exact ⟨rfl, rfl, rfl⟩
  | duplication => exact ⟨rfl, rfl, rfl⟩
  | noDuplication => exact ⟨rfl, rfl, rfl⟩

/-- A mutation tells by which operator it came about. -/
theorem kind_of_yields_apply {o mutated : Organism} {kind : Kind} {outcome : Outcome}
    (possible : (apply o kind).Yields (mutated, outcome)) : outcome.kind = kind := by
  obtain ⟨-, -, same, -⟩ := of_yields_apply possible
  exact same

/-- A mutation changes the body alone.  It is counted, it leaves the generation to
the caller, and it brings the vital values back into the unit interval. -/
theorem eq_withBody_of_yields_apply {o mutated : Organism} {kind : Kind} {outcome : Outcome}
    (possible : (apply o kind).Yields (mutated, outcome)) :
    ∃ body : Body, mutated = (o.withBody body).normalize ∧
      body.state.mutations = o.state.mutations + 1 ∧
      body.state.generation = o.state.generation := by
  obtain ⟨changed, changes, -, rfl⟩ := of_yields_apply possible
  obtain ⟨body, rfl, mutations, generation⟩ := changes.eq_withBody
  refine ⟨⟨{ body.state with mutations := body.state.mutations + 1 }, body.genes⟩, rfl, ?_,
    generation⟩
  exact congrArg (· + 1) mutations

/-! ## Genes -/

/-- What an operator can make of the genes of an organism. -/
inductive ChangesGenes (o : Organism) : Kind → List Gene → Prop where
  | unchanged (kind : Kind) : ChangesGenes o kind o.genes
  | perturbed {moved : List Gene} {size : Float}
      (drawn : (perturbGenes o.genes).Yields (moved, size)) :
      ChangesGenes o .geneContribution moved
  | duplicated {gene : Gene} (active : gene ∈ o.activeGenes)
      (room : o.genes.length < geneLimit) :
      ChangesGenes o .geneDuplication (o.genes ++ [duplicate gene o.nextGeneId])

theorem changesGenes_of_yields_apply {o mutated : Organism} {kind : Kind} {outcome : Outcome}
    (possible : (apply o kind).Yields (mutated, outcome)) :
    ChangesGenes o kind mutated.genes := by
  obtain ⟨changed, changes, -, rfl⟩ := of_yields_apply possible
  show ChangesGenes o kind changed.genes
  generalize outcome.magnitude = size at changes
  cases changes with
  | consciousness => exact .unchanged _
  | coherence => exact .unchanged _
  | fitness => exact .unchanged _
  | contribution drawn => exact .perturbed drawn
  | duplication active room => exact .duplicated active room
  | noDuplication => exact .unchanged _

theorem stemsFrom_of_yields_perturbGenes {genes moved : List Gene} {size : Float}
    (possible : (perturbGenes genes).Yields (moved, size)) :
    ∀ gene ∈ moved, ∃ old ∈ genes, gene.StemsFrom old := by
  rcases of_yields_perturbGenes possible with
    ⟨rfl, rfl, -⟩ | ⟨place, old, changed, found, drawn, rfl⟩
  · exact fun _ impossible => nomatch impossible
  · intro gene member
    rcases List.mem_or_eq_of_mem_set member with before | rfl
    · exact ⟨gene, before, .refl gene⟩
    · have active : gene.active = old.active := by rw [of_yields_perturbGene drawn]
      exact ⟨old, List.mem_of_getElem? found, active, Or.inr ⟨size, drawn⟩⟩

/-- Every gene of a mutated organism stems from one of the old organism.  The copy of a gene is
active and contributes what the gene does. -/
theorem stemsFrom_of_yields_apply {o mutated : Organism} {kind : Kind} {outcome : Outcome}
    (possible : (apply o kind).Yields (mutated, outcome)) :
    ∀ gene ∈ mutated.genes, ∃ old ∈ o.genes, gene.StemsFrom old := by
  have unmoved : ∀ gene ∈ o.genes, ∃ old ∈ o.genes, gene.StemsFrom old :=
    fun gene member => ⟨gene, member, .refl gene⟩
  have changes := changesGenes_of_yields_apply possible
  generalize mutated.genes = later at changes
  cases changes with
  | unchanged => exact unmoved
  | perturbed drawn => exact stemsFrom_of_yields_perturbGenes drawn
  | @duplicated old active _ =>
      have copied : ∃ first ∈ o.genes, (duplicate old o.nextGeneId).StemsFrom first :=
        ⟨old, (List.mem_filter.mp active).1, rfl, Or.inl rfl⟩
      exact List.forall_mem_append.mpr ⟨unmoved, List.forall_mem_singleton.mpr copied⟩

end Mutation

/-- A crossed child is its first parent with another body, whose state is bred from
the states of both. -/
theorem eq_withBody_of_yields_crossover {first second child : Organism} {eliteBias : Float}
    (possible : (crossover first second eliteBias).Yields child) :
    ∃ genes, child = first.withBody ⟨crossStates first.state second.state, genes⟩ := by
  obtain ⟨genes, -, possible⟩ := yields_bind possible
  exact ⟨renumber 1 genes, yields_pure.mp possible⟩

end Vivarium
