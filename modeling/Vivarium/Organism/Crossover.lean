import Vivarium.Organism.Basic
import Vivarium.Random.Rng

/-!
# Crossover

Two parents breed one child.  Its vital values are the means of theirs; its
genes are picked from the genes of both, ranked by contribution.  A pick takes
the next gene of the ranking with the chance of the elite bias, and any gene of
the ranking otherwise, until the child has as many genes as its first parent.

Main definitions:

* `rankedGenes`: the genes of both parents by descending contribution;
* `pickGenes`: the genes of the child;
* `crossover`: the child.
-/

namespace Vivarium

/-- Order by descending contribution. -/
def Gene.contributesMore (a b : Gene) : Bool := Number.totalLe b.contribution a.contribution

/-- The genes of both parents by descending contribution.  Of equal genes those of
the first parent come first. -/
def rankedGenes (first second : Organism) : List Gene :=
  (first.genes ++ second.genes).mergeSort Gene.contributesMore

/-- A number of genes from a ranking.  The rank is that of the next gene taken for
its contribution; behind the end of the ranking it is the last one. -/
def pickGenes (ranked : List Gene) (eliteBias : Float) (rank : Nat) : Nat → Draw (List Gene)
  | 0 => return []
  | count + 1 => do
      let chance ← Draw.unit
      let elite := chance < eliteBias
      let index ← if elite then pure (min rank (ranked.length - 1))
        else Draw.below64 ranked.length
      let rest ← pickGenes ranked eliteBias (if elite then rank + 1 else rank) count
      return (ranked[index]?).toList ++ rest

/-- The genes numbered upward from a number. -/
def renumber (id : UInt64) : List Gene → List Gene
  | [] => []
  | gene :: rest => { gene with id := id } :: renumber (id + 1) rest

/-- The mean of two values. -/
def mean (a b : Float) : Float := (a + b) / 2.0

/-- The state of a child: the means of the vital values, the greater count of
mutations, and the generation after both parents. -/
def crossStates (a b : State) : State :=
  State.normalize
    { consciousness := mean a.consciousness b.consciousness
      quantumCoherence := mean a.quantumCoherence b.quantumCoherence
      fitness := mean a.fitness b.fitness
      energy := mean a.energy b.energy
      mutations := max a.mutations b.mutations
      generation := max a.generation b.generation + 1 }

/-- The child of two parents.  What is not bred is taken from the first one. -/
def crossover (first second : Organism) (eliteBias : Float) : Draw Organism := do
  let genes ← pickGenes (rankedGenes first second) eliteBias 0 first.genes.length
  return { first with
    state := crossStates first.state second.state
    genes := renumber 1 genes }

end Vivarium
