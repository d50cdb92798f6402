import Vivarium.Proofs.Organism.Bounds

/-!
# What running leaves alone

Cycles and evolution work on the state of an organism and on the contributions of its genes.
Everything else was written down when the organism came to be, and is its *design*: who it
is, which genes it has and in which order, and what is said about them.  Duplicating a gene
would change the design, and it is the only operator that would; an organism that evolves on
its own never draws it.

How contributions change is told gene by gene.  A step of evolution moves one of them at
most.  Recovering from a tick that has failed may change many, but only those that were no
finite numbers.

Main definitions:

* `Gene.Design`, `Organism.Design`: what running leaves alone;
* `Gene.OneMoved`: genes of which one has another contribution at most.

Main statements:

* `Organism.oneMoved_of_yields_evolve`, `oneMoved_of_yields_tick`: genes after evolution, and
  after a tick that goes well;
* `Organism.keptInCycles_design`: a cycle keeps the design.
-/

namespace Vivarium

open Draw

/-- What there is to a gene apart from its contribution. -/
structure Gene.Design where
  id : UInt64
  name : String
  category : Gene.Category
  body : String
  active : Bool
  deriving DecidableEq

/-- The design of a gene. -/
def Gene.design (gene : Gene) : Gene.Design :=
  ⟨gene.id, gene.name, gene.category, gene.body, gene.active⟩

/-- What there is to an organism apart from its state, the contributions of its genes and the
time of its last evolution. -/
structure Organism.Design where
  id : OrganismId
  name : String
  genes : List Gene.Design
  workflow : String
  evolution : Evolvability
  createdAt : Instant
  deriving DecidableEq

/-- The design of an organism. -/
def Organism.design (o : Organism) : Organism.Design :=
  ⟨o.id, o.name, o.genes.map (·.design), o.workflow, o.evolution, o.createdAt⟩

/-! ## Genes -/

/-- The genes are the old ones, but for the contribution of one of them at most. -/
structure Gene.OneMoved (old genes : List Gene) : Prop where
  design : genes.map (·.design) = old.map (·.design)
  others : ∃ place : Nat, ∀ other : Nat, other ≠ place → genes[other]? = old[other]?

theorem Gene.OneMoved.refl (genes : List Gene) : OneMoved genes genes :=
  ⟨rfl, 0, fun _ _ => rfl⟩

/-- A gene in the place of one of the same design. -/
theorem Gene.OneMoved.set {genes : List Gene} {place : Nat} {old gene : Gene}
    (found : genes[place]? = some old) (same : gene.design = old.design) :
    OneMoved genes (genes.set place gene) where
  design := by
    obtain ⟨bounded, rfl⟩ := List.getElem?_eq_some_iff.mp found
    have mapped : place < (genes.map Gene.design).length := by rwa [List.length_map]
    have there : (genes.map Gene.design)[place] = genes[place].design := List.getElem_map _
    rw [List.map_set, same, ← there, List.set_getElem_self]
  others := ⟨place, fun _ apart => List.getElem?_set_ne (Ne.symm apart)⟩

namespace Mutation

theorem oneMoved_of_yields_perturbGenes {genes moved : List Gene} {size : Float}
    (possible : (perturbGenes genes).Yields (moved, size)) : Gene.OneMoved genes moved := by
  rcases of_yields_perturbGenes possible with
    ⟨rfl, rfl, -⟩ | ⟨place, old, gene, found, drawn, rfl⟩
  · exact .refl []
  · have same : gene.design = old.design := by
      rw [of_yields_perturbGene drawn]
      rfl
    exact .set found same

/-- None of the operators of an organism's own evolution duplicates a gene. -/
theorem oneMoved_of_yields_apply {o mutated : Organism} {kind : Kind} {outcome : Outcome}
    (own : kind ∈ Kind.own) (possible : (apply o kind).Yields (mutated, outcome)) :
    Gene.OneMoved o.genes mutated.genes := by
  have changes := changesGenes_of_yields_apply possible
  generalize mutated.genes = later at changes
  cases changes with
  | unchanged => exact .refl o.genes
  | perturbed drawn => exact oneMoved_of_yields_perturbGenes drawn
  | duplicated => exact absurd own (by decide)

end Mutation

namespace Organism

variable {o evolved ticked : Organism} {config : HabitatConfig} {now : Instant}

/-! ## Evolution -/

/-- A step of evolution moves the contribution of one gene at most. -/
theorem oneMoved_of_yields_evolve {outcome : Option Mutation.Outcome}
    (possible : (o.evolve now).Yields (evolved, outcome)) :
    Gene.OneMoved o.genes evolved.genes := by
  rcases own_of_yields_evolve possible with ⟨rfl, -⟩ | ⟨kind, own, effect, mutated, drawn, rfl, -⟩
  · exact .refl evolved.genes
  · have moved := Mutation.oneMoved_of_yields_apply own drawn
    exact moved

theorem design_of_yields_evolve {outcome : Option Mutation.Outcome}
    (possible : (o.evolve now).Yields (evolved, outcome)) : evolved.design = o.design := by
  have moved := oneMoved_of_yields_evolve possible
  rcases of_yields_evolve possible with ⟨rfl, -⟩ | ⟨kind, effect, mutated, drawn, rfl, -⟩
  · rfl
  · obtain ⟨body, rfl, -, -⟩ := Mutation.eq_withBody_of_yields_apply drawn
    exact congrArg (fun genes => ({ o.design with genes := genes } : Design)) moved.design

/-! ## Cycles -/

/-- A tick that goes well moves the contribution of one gene at most. -/
theorem oneMoved_of_yields_tick {evolves : Bool}
    (possible : (o.tick config now).Yields (ticked, some evolves)) :
    Gene.OneMoved o.genes ticked.genes := by
  rcases of_yields_tick possible with
    ⟨impossible, -⟩ | ⟨fitness, coherence, ⟨rfl, -⟩ | ⟨outcome, drawn, -⟩⟩
  · cases impossible
  · exact .refl o.genes
  · have moved := oneMoved_of_yields_evolve drawn
    exact moved

/-- Recovering changes only what was no finite number. -/
theorem getElem?_genes_recover {place : Nat} {gene : Gene} (found : o.genes[place]? = some gene)
    (finite : gene.IsFinite) : (o.recover config).genes[place]? = some gene := by
  have unmended : mendGene gene = gene := if_pos finite
  show (o.genes.map mendGene)[place]? = some gene
  rw [List.getElem?_map, found, Option.map_some, unmended]

theorem design_recover (o : Organism) (config : HabitatConfig) :
    (o.recover config).design = o.design := by
  have mended : ∀ gene, (mendGene gene).design = gene.design := by
    intro gene
    unfold mendGene
    split <;> rfl
  have genes : (o.genes.map mendGene).map (·.design) = o.genes.map (·.design) := by
    rw [List.map_map]
    exact List.map_congr_left fun gene _ => mended gene
  exact congrArg (fun genes => ({ o.design with genes := genes } : Design)) genes

/-- A cycle keeps the design. -/
theorem keptInCycles_design (config : HabitatConfig) (now : Instant) (design : Design) :
    KeptInCycles config now fun o => o.design = design where
  evolved before possible := (design_of_yields_evolve possible).trans before
  fed _ _ before := before
  recovered _ _ before := (design_recover _ config).trans before
  regenerated before := before

end Organism

end Vivarium
