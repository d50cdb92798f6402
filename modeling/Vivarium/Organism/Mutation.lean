import Vivarium.Organism.Basic
import Vivarium.Random.Rng

/-!
# Mutation

A mutation changes one thing about an organism: one of three vital values, the
contribution of a gene, or the number of genes.  Every mutation is counted, also
one that finds nothing to act on; whether the generation advances is decided by
the caller.

Main definitions:

* `Mutation.Kind`: the five operators, and the sets from which they are drawn;
* `Mutation.apply`: one operator at work;
* `Organism.evolve`: an organism's own evolution, drawn with its mutation rate.
-/

namespace Vivarium

namespace Mutation

/-- The operators. -/
inductive Kind where
  | consciousness
  | geneContribution
  | coherence
  | geneDuplication
  | fitnessNudge
  deriving Repr, DecidableEq

namespace Kind

/-- The name of an operator. -/
def name : Kind → String
  | .consciousness => "consciousness"
  | .geneContribution => "gene_contribution"
  | .coherence => "coherence"
  | .geneDuplication => "gene_duplication"
  | .fitnessNudge => "fitness_nudge"

/-- The operators of an organism that evolves on its own. -/
def own : List Kind := [.consciousness, .geneContribution, .coherence]

/-- The operators for offspring and clones in a population. -/
def breeding : List Kind :=
  [.consciousness, .geneContribution, .coherence, .geneDuplication, .fitnessNudge]

/-- A uniform member of a set of operators.  An empty set draws nothing and gives
the first operator. -/
def draw (kinds : List Kind) : Draw Kind := do
  let drawn ← Draw.choose kinds
  return drawn.getD .consciousness

end Kind

/-- The greatest change of consciousness or coherence. -/
def statePerturbation : Float := 0.1

/-- The greatest change of a contribution. -/
def contributionPerturbation : Float := 0.05

/-- The greatest change of fitness. -/
def fitnessPerturbation : Float := 0.05

/-- An organism with so many genes gets no further ones. -/
def geneLimit : Nat := 10

/-- What a mutation did: its operator and the size of the change, which is zero
where there was nothing to act on. -/
structure Outcome where
  kind : Kind
  magnitude : Float
  deriving Repr, DecidableEq

/-- A vital value moved by at most a bound, and the size of the move. -/
def perturb (value bound : Float) : Draw (Float × Float) := do
  let delta ← Draw.symmetric bound
  let moved := clampUnit (value + delta)
  return (moved, (moved - value).abs)

/-- A gene with its contribution moved, and the size of the move. -/
def perturbGene (gene : Gene) : Draw (Gene × Float) := do
  let delta ← Draw.symmetric contributionPerturbation
  let moved := Number.clamp (gene.contribution + delta)
    (-Gene.contributionLimit) Gene.contributionLimit
  return ({ gene with contribution := moved }, (moved - gene.contribution).abs)

/-- The genes with a uniformly drawn one perturbed. -/
def perturbGenes (genes : List Gene) : Draw (List Gene × Float) := do
  if genes.isEmpty then return (genes, 0.0)
  else
    let index ← Draw.below64 genes.length
    match genes[index]? with
    | none => return (genes, 0.0)
    | some gene =>
        let (moved, magnitude) ← perturbGene gene
        return (genes.set index moved, magnitude)

/-- A copy of a gene under a new number, which also marks its name. -/
def duplicate (gene : Gene) (id : UInt64) : Gene :=
  { gene with id := id, name := gene.name ++ "_dup" ++ toString id }

/-- The organism with a copy of a uniformly drawn active gene, unless it has
enough genes or no active one. -/
def duplicateGene (o : Organism) : Draw (Organism × Float) := do
  if geneLimit ≤ o.genes.length then return (o, 0.0)
  else
    match ← Draw.choose o.activeGenes with
    | none => return (o, 0.0)
    | some gene =>
        return ({ o with genes := o.genes ++ [duplicate gene o.nextGeneId] },
          gene.contribution.abs)

/-- The change that an operator makes, and its size. -/
def change (o : Organism) : Kind → Draw (Organism × Float)
  | .consciousness => do
      let (moved, size) ← perturb o.state.consciousness statePerturbation
      return ({ o with state := { o.state with consciousness := moved } }, size)
  | .coherence => do
      let (moved, size) ← perturb o.state.quantumCoherence statePerturbation
      return ({ o with state := { o.state with quantumCoherence := moved } }, size)
  | .fitnessNudge => do
      let (moved, size) ← perturb o.state.fitness fitnessPerturbation
      return ({ o with state := { o.state with fitness := moved } }, size)
  | .geneContribution => do
      let (genes, size) ← perturbGenes o.genes
      return ({ o with genes := genes }, size)
  | .geneDuplication => duplicateGene o

/-- The organism with one more mutation on its count. -/
def count (o : Organism) : Organism :=
  { o with state := { o.state with mutations := o.state.mutations + 1 } }

/-- One operator at work: its change, counted, and the vital values brought back
into the unit interval. -/
def apply (o : Organism) (kind : Kind) : Draw (Organism × Outcome) := do
  let (changed, magnitude) ← change o kind
  return ((count changed).normalize, ⟨kind, magnitude⟩)

end Mutation

/-- One step of an organism's own evolution.  With the chance of its mutation
rate one operator is applied, the generation advances and the time is noted;
otherwise nothing happens. -/
def Organism.evolve (o : Organism) (now : Instant) :
    Draw (Organism × Option Mutation.Outcome) := do
  let chance ← Draw.unit
  if o.evolution.mutationRate ≤ chance then return (o, none)
  else
    let kind ← Mutation.Kind.draw Mutation.Kind.own
    let (mutated, outcome) ← Mutation.apply o kind
    let state := { mutated.state with generation := mutated.state.generation + 1 }
    return ({ mutated with state := state, lastEvolutionAt := some now }, some outcome)

end Vivarium
