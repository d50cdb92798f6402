import Vivarium.Number.Word
import Vivarium.Organism.Gene
import Vivarium.Organism.State
import Vivarium.Time.Instant
import Vivarium.Uuid

/-!
# Organisms

An organism is a record: who it is, how it is, the genes it carries, a workflow
text that describes what it does, the rates of its evolution, and the times of
its birth and of its last evolution.

Main definitions:

* `Evolvability`: the rates and the goal of an organism's own evolution;
* `Organism`: the record;
* `Organism.newborn`: the organism of a name without genes;
* `Organism.activeFraction`, `Organism.greatestGeneId`, `Organism.nextGeneId`,
  `Organism.lastEvolved`: what is derived from the record.
-/

namespace Vivarium

/-- How an organism evolves on its own. -/
structure Evolvability where
  goal : String
  mutationRate : Float
  selectionPressure : Float
  deriving Repr, DecidableEq

namespace Evolvability

/-- The settings of an organism whose source gives none. -/
def initial : Evolvability := ⟨"fitness", 0.1, 0.8⟩

end Evolvability

/-- A living organism. -/
structure Organism where
  id : OrganismId
  name : String
  state : State
  genes : List Gene
  workflow : String
  evolution : Evolvability
  createdAt : Instant
  lastEvolutionAt : Option Instant
  deriving Repr, DecidableEq

namespace Organism

/-- The organism of a name in its initial state and without genes. -/
def newborn (name : String) (createdAt : Instant) : Organism :=
  { id := OrganismId.ofName name
    name := name
    state := State.initial
    genes := []
    workflow := ""
    evolution := Evolvability.initial
    createdAt := createdAt
    lastEvolutionAt := none }

/-- The genes that are active, in order. -/
def activeGenes (o : Organism) : List Gene := o.genes.filter (·.active)

/-- The share of active genes; zero without genes. -/
def activeFraction (o : Organism) : Float :=
  if o.genes.isEmpty then 0.0
  else Number.ofNat o.activeGenes.length / Number.ofNat o.genes.length

/-- The greatest number of a gene; zero without genes. -/
def greatestGeneId (o : Organism) : UInt64 := o.genes.foldl (fun id gene => max id gene.id) 0

/-- The number behind those of all genes. -/
def nextGeneId (o : Organism) : UInt64 := o.greatestGeneId + 1

/-- The time of the last evolution, or of birth if there was none. -/
def lastEvolved (o : Organism) : Instant := o.lastEvolutionAt.getD o.createdAt

/-- The organism with its vital values in the unit interval. -/
def normalize (o : Organism) : Organism := { o with state := o.state.normalize }

@[simp]
theorem normalize_id (o : Organism) : o.normalize.id = o.id := rfl

/-- The greatest number is reached by the number to start with or by some gene. -/
theorem foldl_max_cases (genes : List Gene) (start : UInt64) :
    genes.foldl (fun id gene => max id gene.id) start = start ∨
      ∃ gene ∈ genes, genes.foldl (fun id gene => max id gene.id) start = gene.id := by
  induction genes generalizing start with
  | nil => exact Or.inl rfl
  | cons first rest inductionHypothesis =>
      rw [List.foldl_cons]
      rcases inductionHypothesis (max start first.id) with same | ⟨gene, among, same⟩
      · rw [same]
        exact (Number.max_cases start first.id).imp_right fun above =>
          ⟨first, List.mem_cons_self, above⟩
      · exact Or.inr ⟨gene, List.mem_cons_of_mem _ among, same⟩

theorem foldl_max_le (genes : List Gene) (start : UInt64) :
    start ≤ genes.foldl (fun id gene => max id gene.id) start := by
  induction genes generalizing start with
  | nil => exact UInt64.le_refl _
  | cons gene rest inductionHypothesis =>
      exact UInt64.le_trans (Number.le_max_left _ _) (inductionHypothesis _)

theorem id_le_foldl_max {gene : Gene} {genes : List Gene} (member : gene ∈ genes)
    (start : UInt64) : gene.id ≤ genes.foldl (fun id gene => max id gene.id) start := by
  induction genes generalizing start with
  | nil => cases member
  | cons first rest inductionHypothesis =>
      rcases List.mem_cons.mp member with rfl | later
      · exact UInt64.le_trans (Number.le_max_right _ _) (foldl_max_le _ _)
      · exact inductionHypothesis later _

theorem id_le_greatestGeneId {o : Organism} {gene : Gene} (member : gene ∈ o.genes) :
    gene.id ≤ o.greatestGeneId :=
  id_le_foldl_max member 0

/-- With a gene there is one of the greatest number. -/
theorem exists_greatestGeneId {o : Organism} (nonempty : o.genes ≠ []) :
    ∃ gene ∈ o.genes, o.greatestGeneId = gene.id := by
  obtain ⟨gene, member⟩ := List.exists_mem_of_ne_nil _ nonempty
  rcases foldl_max_cases o.genes 0 with zero | reached
  · have le : gene.id ≤ 0 := zero ▸ id_le_foldl_max member 0
    exact ⟨gene, member, zero.trans (UInt64.le_zero_iff.mp le).symm⟩
  · exact reached

/-- The next number is above those of all genes, if none of them is the last one. -/
theorem id_lt_nextGeneId {o : Organism} (room : ∀ gene ∈ o.genes, Number.HasRoom gene.id 1)
    {gene : Gene} (member : gene ∈ o.genes) : gene.id < o.nextGeneId := by
  obtain ⟨greatest, among, same⟩ := exists_greatestGeneId (List.ne_nil_of_mem member)
  have free : Number.HasRoom o.greatestGeneId 1 := same ▸ room greatest among
  exact UInt64.lt_of_le_of_lt (id_le_greatestGeneId member) (Number.lt_succ_of_hasRoom free)

end Organism

end Vivarium
