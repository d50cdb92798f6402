import Mathlib.Data.List.Forall2
import Vivarium.Proofs.Listing
import Vivarium.Proofs.Organism.Bounds
import Vivarium.Proofs.Random.Checked

/-!
# Crossover, pick by pick

A child gets as many genes as its first parent has, and each of them is picked from the ranked
genes of both.  A pick takes the next gene of the ranking or any one of them, as chance decides,
and only a pick of the first kind moves on in the ranking.

The ranking is at least as long as the number of genes that are wanted, so there is always a
next gene, and there is always something to draw from.  To say so, the picks are made once more
with checks: a gene is looked up inside of the ranking, and no number is drawn below zero.

The child is a generation on from both parents as long as generations can be counted up.  Behind
the last generation that a word holds comes generation zero.

Main definitions:

* `Pick`, `pickGenes?`: the picks, with the checks made;
* `IsPicking`: what a number of picks from a place of the ranking on comes to;
* `IsCrossing`: what the crossover of two parents comes to.

Main statements:

* `checks_pickGenes`: no check fails, and the picks for rank go down the ranking;
* `crossover_isCrossing`: the child of two parents, for every stream;
* `isBounded_of_yields_crossover`: its contributions keep to the limit if theirs do.
-/

namespace Vivarium

open Draw Number

/-! ## Picks -/

/-- A gene that was picked from a ranking, from which place, and whether for its rank. -/
structure Pick where
  elite : Bool
  place : Nat
  gene : Gene

/-- The gene that is picked from a place, which has to be one of the ranking. -/
def pickAt? (ranked : List Gene) (elite : Bool) (place : Nat) : OptionT Draw Pick :=
  OptionT.mk (pure (ranked[place]?.map fun gene => ⟨elite, place, gene⟩))

/-- A number of picks, made as for a child.  It comes to nothing if a number is drawn below
zero, or a gene is looked up outside of the ranking. -/
def pickGenes? (ranked : List Gene) (eliteBias : Float) (rank : Nat) :
    Nat → OptionT Draw (List Pick)
  | 0 => return []
  | count + 1 => do
      let chance ← OptionT.lift Draw.unit
      let elite := chance < eliteBias
      let place ← if elite then pure (min rank (ranked.length - 1))
        else Draw.below? ranked.length
      let pick ← pickAt? ranked elite place
      let rest ← pickGenes? ranked eliteBias (if elite then rank + 1 else rank) count
      return pick :: rest

/-- The places of the picks that were made for their rank. -/
def elitePlaces (picks : List Pick) : List Nat := (picks.filter (·.elite)).map (·.place)

/-- A number of picks from a ranking.  Those for rank take one place after the other, from the
given one on. -/
structure IsPicking (ranked : List Gene) (rank count : Nat) (picks : List Pick) : Prop where
  count : picks.length = count
  found : ∀ pick ∈ picks, ranked[pick.place]? = some pick.gene
  byRank : elitePlaces picks = List.range' rank (picks.countP (·.elite))

namespace IsPicking

variable {ranked : List Gene} {rank count : Nat} {picks : List Pick} {pick : Pick}

theorem nil (ranked : List Gene) (rank : Nat) : IsPicking ranked rank 0 [] :=
  ⟨rfl, List.forall_mem_nil _, rfl⟩

/-- A pick for rank moves on. -/
theorem cons_elite (picking : IsPicking ranked (rank + 1) count picks) (elite : pick.elite = true)
    (next : pick.place = rank) (found : ranked[pick.place]? = some pick.gene) :
    IsPicking ranked rank (count + 1) (pick :: picks) where
  count := congrArg (· + 1) picking.count
  found := List.forall_mem_cons.mpr ⟨found, picking.found⟩
  byRank := by
    rw [elitePlaces, List.filter_cons_of_pos elite, List.countP_cons_of_pos elite, List.map_cons,
      next, List.range'_succ]
    exact congrArg _ picking.byRank

/-- Any other pick does not. -/
theorem cons_any (picking : IsPicking ranked rank count picks) (common : ¬pick.elite = true)
    (found : ranked[pick.place]? = some pick.gene) :
    IsPicking ranked rank (count + 1) (pick :: picks) where
  count := congrArg (· + 1) picking.count
  found := List.forall_mem_cons.mpr ⟨found, picking.found⟩
  byRank := by
    rw [elitePlaces, List.filter_cons_of_neg common, List.countP_cons_of_neg common]
    exact picking.byRank

end IsPicking

theorem pickAt?_eq {ranked : List Gene} {place : Nat} (elite : Bool)
    (inside : place < ranked.length) :
    pickAt? ranked elite place = pure ⟨elite, place, ranked[place]⟩ := by
  rw [pickAt?, List.getElem?_eq_getElem inside]
  rfl

/-- As long as the ranking has a place for every gene that is wanted, no check fails, and the
same genes are picked without checks. -/
theorem checks_pickGenes {ranked : List Gene} {rank count : Nat} (eliteBias : Float)
    (room : rank + count ≤ ranked.length) :
    Checks (fun picks genes => IsPicking ranked rank count picks ∧ genes = picks.map (·.gene))
      (pickGenes? ranked eliteBias rank count) (pickGenes ranked eliteBias rank count) := by
  induction count generalizing rank with
  | zero => exact Checks.pure ⟨IsPicking.nil ranked rank, rfl⟩
  | succ count inductionHypothesis =>
      refine (checks_lift Draw.unit).bind ?_
      rintro chance _ ⟨rfl, -⟩
      dsimp only
      by_cases elite : chance < eliteBias
      · -- the next gene of the ranking: the end of it is not reached
        have next : min rank (ranked.length - 1) = rank := by omega
        have inside : rank < ranked.length := by omega
        simp only [if_pos elite, pure_bind, next, pickAt?_eq _ inside]
        have moved : rank + 1 + count ≤ ranked.length := by omega
        refine (inductionHypothesis moved).bind ?_
        rintro picks _ ⟨picking, rfl⟩
        refine Checks.pure ⟨picking.cons_elite (decide_eq_true elite) rfl ?_, ?_⟩
        · exact List.getElem?_eq_getElem inside
        · rw [List.getElem?_eq_getElem inside]
          rfl
      · simp only [if_neg elite]
        refine (checks_below? (by omega)).bind ?_
        rintro place _ ⟨rfl, inside⟩
        simp only [pickAt?_eq _ inside, pure_bind]
        refine (inductionHypothesis (by omega)).bind ?_
        rintro picks _ ⟨picking, rfl⟩
        refine Checks.pure ⟨picking.cons_any (by simp [elite]) ?_, ?_⟩
        · exact List.getElem?_eq_getElem inside
        · rw [List.getElem?_eq_getElem inside]
          rfl

/-! ## Numbers -/

/-- Nothing of a gene but its id changes when it is numbered. -/
theorem forall₂_renumber (id : UInt64) (genes : List Gene) :
    List.Forall₂ (fun old gene : Gene => gene = { old with id := gene.id }) genes
      (renumber id genes) := by
  induction genes generalizing id with
  | nil => exact List.Forall₂.nil
  | cons first rest inductionHypothesis =>
      exact List.Forall₂.cons rfl (inductionHypothesis (id + 1))

theorem map_id_renumber (id : Nat) (genes : List Gene) :
    (renumber (UInt64.ofNat id) genes).map (·.id) = wordsFrom id genes.length := by
  induction genes generalizing id with
  | nil => rfl
  | cons first rest inductionHypothesis =>
      rw [List.length_cons, wordsFrom_succ, ← inductionHypothesis (id + 1), UInt64.ofNat_add]
      rfl

/-! ## Children -/

theorem rankedGenes_isStableSort (first second : Organism) :
    IsStableSort Gene.contributesMore (first.genes ++ second.genes) (rankedGenes first second) := by
  have transitive : ∀ a b c : Gene, a.contributesMore b → b.contributesMore c →
      a.contributesMore c :=
    fun a b c more most => Number.totalLe_trans most more
  have total : ∀ a b : Gene, (a.contributesMore b || b.contributesMore a) = true :=
    fun a b => Number.totalLe_total b.contribution a.contribution
  exact mergeSort_isStableSort transitive total _

/-- The child is a crossover of two parents whose genes stand in a ranking, with some picks from
it. -/
structure IsCrossing (first second : Organism) (ranked : List Gene) (picks : List Pick)
    (child : Organism) : Prop where
  /-- The genes of both parents are ranked by contribution, equal ones as they came. -/
  ranking : IsStableSort Gene.contributesMore (first.genes ++ second.genes) ranked
  count : child.genes.length = first.genes.length
  ids : child.genes.map (·.id) = wordsFrom 1 first.genes.length
  /-- Each gene of the child is that of a pick, but for the id. -/
  picked : List.Forall₂ (fun pick gene => ranked[pick.place]? = some pick.gene ∧
    gene = { pick.gene with id := gene.id }) picks child.genes
  parental : ∀ gene ∈ child.genes, ∃ old, (old ∈ first.genes ∨ old ∈ second.genes) ∧
    gene = { old with id := gene.id }
  /-- The picks for rank go down the ranking from its top, and none is made twice. -/
  byRank : elitePlaces picks = List.range (picks.countP (·.elite))
  distinct : (elitePlaces picks).Nodup
  /-- The child is a generation on, unless that of a parent is the last that can be counted. -/
  generation : HasRoom first.state.generation 1 → HasRoom second.state.generation 1 →
    child.state.generation.toNat =
      max first.state.generation.toNat second.state.generation.toNat + 1
  later : HasRoom first.state.generation 1 → HasRoom second.state.generation 1 →
    first.state.generation < child.state.generation ∧
      second.state.generation < child.state.generation
  mutations : child.state.mutations = max first.state.mutations second.state.mutations
  inherited : child.name = first.name ∧ child.workflow = first.workflow ∧
    child.evolution = first.evolution
  vitals : ∀ value ∈ child.state.vitals, value.isNaN = false ∧ 0.0 ≤ value ∧ value ≤ 1.0

/-- What is picked for all genes of the first parent makes a crossover. -/
theorem IsPicking.isCrossing {first second : Organism} {picks : List Pick}
    (picking : IsPicking (rankedGenes first second) 0 first.genes.length picks) :
    IsCrossing first second (rankedGenes first second) picks
      { first with
        state := crossStates first.state second.state
        genes := renumber 1 (picks.map (·.gene)) } := by
  have ranking := rankedGenes_isStableSort first second
  have ids := map_id_renumber 1 (picks.map (·.gene))
  rw [List.length_map, picking.count] at ids
  have numbered := List.forall₂_map_left_iff.mp (forall₂_renumber 1 (picks.map (·.gene)))
  have picked := (List.forall₂_and_left _ _).mpr ⟨picking.found, numbered⟩
  have byRank : elitePlaces picks = List.range (picks.countP (·.elite)) := by
    rw [List.range_eq_range']
    exact picking.byRank
  have count := picked.length_eq.symm.trans picking.count
  refine ⟨ranking, count, ids, picked, ?_, byRank, ?_, ?_, ?_, rfl, ⟨rfl, rfl, rfl⟩, ?_⟩
  · intro gene member
    obtain ⟨pick, -, found, same⟩ := exists_mem_of_forall₂ picked gene member
    have among := ranking.perm.mem_iff.mp (List.mem_of_getElem? found)
    exact ⟨pick.gene, List.mem_append.mp among, same⟩
  · rw [byRank]
    exact List.nodup_range
  · intro firstRoom secondRoom
    show (max first.state.generation second.state.generation + 1).toNat = _
    rw [toNat_succ_of_hasRoom (firstRoom.max secondRoom), toNat_max]
  · intro firstRoom secondRoom
    have on := lt_succ_of_hasRoom (firstRoom.max secondRoom)
    exact ⟨UInt64.lt_of_le_of_lt (le_max_left _ _) on,
      UInt64.lt_of_le_of_lt (le_max_right _ _) on⟩
  · exact Organism.IsNormal.vitals (State.isNormal_normalize _)

/-- The ranking has all genes of the first parent, so it is long enough for the child. -/
theorem checks_crossover (first second : Organism) (eliteBias : Float) :
    Checks (fun picks child => IsCrossing first second (rankedGenes first second) picks child)
      (pickGenes? (rankedGenes first second) eliteBias 0 first.genes.length)
      (crossover first second eliteBias) := by
  have room : 0 + first.genes.length ≤ (rankedGenes first second).length := by
    rw [(rankedGenes_isStableSort first second).perm.length_eq, List.length_append]
    omega
  rw [← bind_pure (pickGenes? (rankedGenes first second) eliteBias 0 first.genes.length)]
  refine (checks_pickGenes eliteBias room).bind ?_
  rintro picks _ ⟨picking, rfl⟩
  exact Checks.pure picking.isCrossing

/-- The picks for a child never draw from an empty range, and never look outside of the ranking.
The child is the crossover of its parents that they make. -/
theorem crossover_isCrossing (first second : Organism) (eliteBias : Float) (rng : Rng) :
    ∃ picks,
      (pickGenes? (rankedGenes first second) eliteBias 0 first.genes.length).run.run rng =
        (some picks, ((crossover first second eliteBias).run rng).2) ∧
      IsCrossing first second (rankedGenes first second) picks
        ((crossover first second eliteBias).run rng).1 :=
  checks_crossover first second eliteBias rng

/-- A parent in its last generation. -/
def elder : Organism :=
  { Organism.newborn "elder" ⟨0, 0⟩ with
    state.generation := 0xffffffffffffffff
    genes := [⟨8, "tail", .actuator, "swim();", true, 0.25⟩] }

/-- A parent of the third generation. -/
def youngster : Organism := { elder with state.generation := 3 }

/-- Two parents that have room for a generation more. -/
theorem crossover_isCrossing_youngsters :
    let child := ((crossover youngster youngster 0.5).run (Rng.ofSeed 5)).1
    child.state.generation.toNat = 4 ∧ child.genes.map (·.id) = [1] := by
  intro child
  obtain ⟨picks, -, crossing⟩ := crossover_isCrossing youngster youngster 0.5 (Rng.ofSeed 5)
  exact ⟨crossing.generation (by decide) (by decide), crossing.ids⟩

/-- The child of the elder is of generation zero. -/
theorem not_later_elder :
    let child := ((crossover elder youngster 0.5).run (Rng.ofSeed 5)).1
    child.state.generation = 0 ∧ child.state.generation.toNat ≠
        max elder.state.generation.toNat youngster.state.generation.toNat + 1 ∧
      ¬elder.state.generation < child.state.generation := by
  decide +kernel

/-- Each gene of a crossed child is one of its parents' but for the number. -/
theorem Organism.isBounded_of_yields_crossover {first second child : Organism}
    {eliteBias : Float} (firstBounded : first.IsBounded) (secondBounded : second.IsBounded)
    (possible : (crossover first second eliteBias).Yields child) : child.IsBounded := by
  obtain ⟨picks, crossing⟩ := (checks_crossover first second eliteBias).of_yields possible
  intro gene member
  obtain ⟨old, parental, same⟩ := crossing.parental gene member
  have oldBounded : old.IsBounded := parental.elim (firstBounded old) (secondBounded old)
  rw [same]
  exact oldBounded

end Vivarium
