import Vivarium.Proofs.Breeding.Selection
import Vivarium.Proofs.Random.Uniform

/-!
# Tournaments

Parents are found by tournaments.  The contestants are drawn from a pool, and the fittest of them
is to win.  But nobody looks at their fitness: the contestant of least rank wins.  That is right
because the pool is the front of a ranking, so that whoever stands further in front is at least as
fit.  Ties do no harm, as equally fit contestants have one and the same fitness, bit by bit.

A contestant is drawn by an index below the size of the pool.  That the draw is uniform is meant
as in `Draw.IsUniform`: it has the patience for 4096 words, and settles for the last of them if
all were refused.  The order of the pool has no part in this.

Main definitions:

* `IsPool`: organisms among whom a tournament can be held;
* `IsTournament`: what a tournament comes to.

Main statements:

* `IsPool.fitter`: rank and fitness agree in a pool;
* `tournament_isTournament`: the tournaments of a cycle of selection, and of any pool.
-/

namespace Vivarium

open Draw

/-! ## Fitness -/

namespace Organism

variable {a b c : Organism}

theorem fitter_refl (o : Organism) : o.fitter o = true := Number.totalLe_refl _

theorem fitter_trans (first : a.fitter b = true) (second : b.fitter c = true) :
    a.fitter c = true :=
  Number.totalLe_trans second first

/-- Of two organisms each is as fit as the other only if their fitness is the same. -/
theorem fitness_eq_of_fitter (first : a.fitter b = true) (second : b.fitter a = true) :
    a.state.fitness = b.state.fitness :=
  Number.totalLe_antisymm second first

theorem fitter_of_fitness_eq (same : a.state.fitness = b.state.fitness) : a.fitter b = true := by
  rw [fitter, same]
  exact Number.totalLe_refl _

end Organism

/-! ## Pools -/

/-- There is somebody to draw, and the organisms stand in the order of descending fitness. -/
structure IsPool (pool : List Organism) : Prop where
  nonempty : pool ≠ []
  descending : pool.Pairwise fun a b => a.fitter b = true

namespace IsPool

variable {pool : List Organism}

/-- Who stands further in front is at least as fit. -/
theorem fitter (ranked : IsPool pool) {i j : Nat} {a b : Organism} (inFront : i ≤ j)
    (first : pool[i]? = some a) (second : pool[j]? = some b) : a.fitter b = true := by
  obtain ⟨iBelow, rfl⟩ := List.getElem?_eq_some_iff.mp first
  obtain ⟨jBelow, rfl⟩ := List.getElem?_eq_some_iff.mp second
  rcases Nat.eq_or_lt_of_le inFront with rfl | before
  · exact Organism.fitter_refl _
  · exact List.pairwise_iff_getElem.mp ranked.descending i j iBelow jBelow before

/-- The front of a ranking is a pool. -/
theorem of_ranking {scored ranked : List Organism} (ranking : IsRanking scored ranked)
    {count : Nat} (nonempty : ranked.take count ≠ []) : IsPool (ranked.take count) :=
  ⟨nonempty, ranking.descending.sublist (List.take_sublist count ranked)⟩

end IsPool

/-! ## Tournaments -/

/-- A tournament in a pool, on a stream that it leaves as the later one. -/
structure IsTournament (pool : List Organism) (size : Nat) (rng later : Rng) (winner : Nat)
    (drawn : List Nat) (contestants : List Organism) (champion : Organism) : Prop where
  /-- All that is drawn from the stream are ranks, one after the other. -/
  turns : ((below64 pool.length).times (max 1 size)).run rng = (drawn, later)
  counted : drawn.length = max 1 size
  /-- They are drawn uniformly.  The length of a pool is a machine word. -/
  uniform : pool.length < Number.wordBound →
    IsUniform 64 pool.length ((·.toNat) <$> word64) (below64 pool.length)
  /-- The contestants are all found in the pool. -/
  lookups : drawn.map (pool[·]?) = contestants.map some
  within : winner < pool.length
  least : IsLeast {index | index ∈ drawn} winner
  won : pool[winner]? = some champion
  contends : champion ∈ contestants
  fittest : ∀ contestant ∈ contestants, champion.fitter contestant = true
  /-- Whoever could win if fitness were compared has the very fitness of the champion. -/
  agrees : ∀ contestant ∈ contestants,
    (∀ rival ∈ contestants, contestant.fitter rival = true) ↔
      contestant.state.fitness = champion.state.fitness

section Contestants

variable {pool contestants : List Organism} {drawn : List Nat} {champion : Organism}

/-- Ranks of the pool can all be looked up. -/
theorem exists_contestants (within : ∀ index ∈ drawn, index < pool.length) :
    ∃ contestants : List Organism, drawn.map (pool[·]?) = contestants.map some := by
  induction drawn with
  | nil => exact ⟨[], rfl⟩
  | cons index rest inductionHypothesis =>
      obtain ⟨below, others⟩ := List.forall_mem_cons.mp within
      obtain ⟨contestants, lookups⟩ := inductionHypothesis others
      refine ⟨pool[index] :: contestants, ?_⟩
      rw [List.map_cons, lookups, List.getElem?_eq_getElem below, List.map_cons]

theorem mem_contestants (lookups : drawn.map (pool[·]?) = contestants.map some) (o : Organism) :
    o ∈ contestants ↔ ∃ index ∈ drawn, pool[index]? = some o := by
  rw [← List.mem_map, lookups]
  simp

/-- The contestant of least rank is the fittest. -/
theorem IsPool.fittest {winner : Nat} (ranked : IsPool pool)
    (lookups : drawn.map (pool[·]?) = contestants.map some)
    (least : IsLeast {index | index ∈ drawn} winner) (won : pool[winner]? = some champion) :
    ∀ contestant ∈ contestants, champion.fitter contestant = true := by
  intro contestant contends
  obtain ⟨index, member, found⟩ := (mem_contestants lookups contestant).mp contends
  exact ranked.fitter (least.2 member) won found

/-- Those who may win when fitness is compared are those who are as fit as the fittest one. -/
theorem Organism.fittest_iff (contends : champion ∈ contestants)
    (fittest : ∀ contestant ∈ contestants, champion.fitter contestant = true) :
    ∀ contestant ∈ contestants, (∀ rival ∈ contestants, contestant.fitter rival = true) ↔
      contestant.state.fitness = champion.state.fitness := by
  intro contestant member
  constructor
  · intro best
    exact fitness_eq_of_fitter (best champion contends) (fittest contestant member)
  · intro same rival rivals
    exact fitter_trans (fitter_of_fitness_eq same) (fittest rival rivals)

end Contestants

/-- What a cycle of selection draws is a litter whose parents are found in a pool. -/
theorem select_breeds_from_pool (config : NurseryConfig) (strategy : Strategy)
    (landscape : Landscape) (now : Instant) {p : Population} (rng : Rng) (supply : IdSupply)
    (nonempty : p.organisms ≠ []) :
    let selected := select config strategy landscape now p rng supply
    let pool := (rank landscape p.organisms).take selected.report.survivors
    IsPool pool ∧ ∃ best litter,
      (drawLitter best pool config strategy now selected.report.offspring).run rng =
        (litter, selected.rng) := by
  intro selected pool
  obtain ⟨-, children, selection⟩ :=
    select_isSelection config strategy landscape now rng supply nonempty
  have contested : pool ≠ [] := by
    apply List.length_pos_iff.mp
    rw [selection.contested.2]
    exact selection.contested.1
  refine ⟨IsPool.of_ranking selection.ranking contested, ?_⟩
  obtain ⟨best, litter, bred, -, -, -⟩ :=
    select_eq config strategy landscape now rng supply nonempty
  -- what the elites leave of the size is bred
  have offspring : selected.report.offspring =
      strategy.populationSize - min strategy.eliteCount p.size := by
    obtain ⟨filled, size⟩ := selection.counted
    rw [selection.elites, size] at filled
    exact Nat.eq_sub_of_add_eq' filled
  refine ⟨best, litter, ?_⟩
  rw [offspring]
  show (drawLitter best (List.take selected.report.survivors _) config strategy now _).run rng = _
  rw [selection.survivors]
  exact bred

/-- A cycle of selection finds the parents of its litter in a pool.  In a pool, whatever the size
of a tournament and the stream are, the contestant of least rank is one whom a comparison of
their fitness finds. -/
theorem tournament_isTournament :
    (∀ (config : NurseryConfig) (strategy : Strategy) (landscape : Landscape) (now : Instant)
        (p : Population) (rng : Rng) (supply : IdSupply), p.organisms ≠ [] →
      let selected := select config strategy landscape now p rng supply
      let pool := (rank landscape p.organisms).take selected.report.survivors
      IsPool pool ∧ ∃ best litter,
        (drawLitter best pool config strategy now selected.report.offspring).run rng =
          (litter, selected.rng)) ∧
      ∀ pool : List Organism, IsPool pool → ∀ (size : Nat) (rng : Rng),
        ∃ drawn contestants champion winner later,
          (tournament pool.length size).run rng = (winner, later) ∧
            IsTournament pool size rng later winner drawn contestants champion := by
  refine ⟨fun config strategy landscape now p rng supply nonempty =>
    select_breeds_from_pool config strategy landscape now rng supply nonempty, ?_⟩
  intro pool ranked size rng
  have positive : 0 < pool.length := List.length_pos_iff.mpr ranked.nonempty
  generalize run : ((below64 pool.length).times (max 1 size)).run rng = outcome
  obtain ⟨drawn, later⟩ := outcome
  obtain ⟨counted, eachDrawn⟩ := yields_times ⟨rng, congrArg Prod.fst run⟩
  dsimp only at counted eachDrawn
  have nonempty : drawn ≠ [] := List.length_pos_iff.mp (by omega)
  have within : ∀ index ∈ drawn, index < pool.length := fun index member =>
    lt_of_yields_below64 positive (eachDrawn index member)
  obtain ⟨contestants, lookups⟩ := exists_contestants within
  have least := isLeast_min? nonempty
  obtain ⟨champion, won⟩ : ∃ champion, pool[drawn.min?.getD 0]? = some champion :=
    ⟨_, List.getElem?_eq_getElem (within _ least.1)⟩
  have contends := (mem_contestants lookups _).mpr ⟨_, least.1, won⟩
  have fittest := ranked.fittest lookups least won
  refine ⟨drawn, contestants, champion, drawn.min?.getD 0, later, ?_, ?_⟩
  · rw [tournament_eq, StateT.run_map, run]
    rfl
  · exact {
      turns := run
      counted := counted
      uniform := isUniform_below64 positive
      lookups := lookups
      within := within _ least.1
      least := least
      won := won
      contends := contends
      fittest := fittest
      agrees := Organism.fittest_iff contends fittest }

/-- The ranks two and one are drawn among newts who are nearly tied: a positive zero beats a
negative one. -/
theorem tournament_isTournament_newts :
    let newt (fitness : Float) : Organism :=
      { Organism.newborn "Newt" ⟨0, 0⟩ with state := { State.initial with fitness := fitness } }
    let newts := [newt 0.5, newt 0.0, newt (-0.0)]
    let pond := { Population.founded "pond" "balanced" ⟨0, 0⟩ with organisms := newts }
    let rng : Rng := { Rng.ofSeed 7 with pending := [0, 0xC0000000, 0, 0x60000000] }
    let supply : IdSupply := ⟨fun k => ⟨BitVec.ofNat 128 k⟩, 0⟩
    let selected :=
      select NurseryConfig.standard Strategy.balanced Landscape.standard ⟨0, 0⟩ pond rng supply
    let pool := (rank Landscape.standard newts).take selected.report.survivors
    pond.organisms ≠ [] ∧
      (IsPool pool ∧ ∃ best litter,
        (drawLitter best pool NurseryConfig.standard Strategy.balanced ⟨0, 0⟩
          selected.report.offspring).run rng = (litter, selected.rng)) ∧
      IsPool newts ∧ ((tournament newts.length 2).run rng).1 = 1 ∧
      ∃ drawn contestants champion winner later,
        (tournament newts.length 2).run rng = (winner, later) ∧
          IsTournament newts 2 rng later winner drawn contestants champion := by
  intro newt newts pond rng supply selected pool
  have nonempty : pond.organisms ≠ [] := List.cons_ne_nil _ _
  have ranked : IsPool newts := ⟨List.cons_ne_nil _ _, by decide +kernel⟩
  exact ⟨nonempty, tournament_isTournament.1 _ _ _ _ pond rng supply nonempty, ranked,
    by decide +kernel, tournament_isTournament.2 newts ranked 2 rng⟩

end Vivarium
