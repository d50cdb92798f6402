import Vivarium.Breeding.Nursery
import Vivarium.Proofs.Breeding.Offspring
import Vivarium.Proofs.Listing

/-!
# Exact selection

A cycle of selection turns a population with organisms into one of exactly the
size of its strategy, whatever the sizes before, the rates and the random stream
are.  Three counts meet in it: the survivors bound the pool from which parents
come, the elites are carried over, and the offspring fill up what is left.

`IsSelection` says what a cycle comes to, in terms of the ranking of the
organisms; `IsRanking` says what a ranking is, without saying how it is computed.

Main statements:

* `rank_isRanking`: the ranking that selection uses is the stable one;
* `select_isSelection`: one cycle on a population;
* `performSelection_isSelection`: one cycle on a population of a nursery.
-/

namespace Vivarium

/-! ## Rankings -/

/-- The organisms stand in the stable order of descending fitness: two of them that
do not have to change places keep the order in which they came. -/
structure IsRanking (scored ranked : List Organism) : Prop where
  perm : ranked.Perm scored
  descending : ranked.Pairwise fun a b => a.fitter b = true
  stable : ∀ a b, a.fitter b = true → [a, b].Sublist scored → [a, b].Sublist ranked

theorem rank_isRanking (l : Landscape) (organisms : List Organism) :
    IsRanking (organisms.map (·.scored l)) (rank l organisms) := by
  have transitive : ∀ a b c : Organism, a.fitter b → b.fitter c → a.fitter c :=
    fun a b c first second => Number.totalLe_trans second first
  have total : ∀ a b : Organism, (a.fitter b || b.fitter a) = true :=
    fun a b => Number.totalLe_total b.state.fitness a.state.fitness
  obtain ⟨perm, descending, stable⟩ :=
    mergeSort_isStableSort transitive total (organisms.map (·.scored l))
  exact ⟨perm, descending, stable⟩

theorem length_rank (l : Landscape) (organisms : List Organism) :
    (rank l organisms).length = organisms.length := by
  rw [(rank_isRanking l organisms).perm.length_eq, List.length_map]

/-- Whoever is ranked is one of the organisms, with its score. -/
theorem exists_of_mem_rank {l : Landscape} {organisms : List Organism} {ranked : Organism}
    (member : ranked ∈ rank l organisms) : ∃ o ∈ organisms, ranked = o.scored l := by
  obtain ⟨o, among, rfl⟩ := List.mem_map.mp ((rank_isRanking l organisms).perm.mem_iff.mp member)
  exact ⟨o, among, rfl⟩

/-! ## What a cycle comes to -/

/-- A cycle of selection made one population of another.  The children are what it
bred; the report is what it tells. -/
structure IsSelection (config : NurseryConfig) (strategy : Strategy) (landscape : Landscape)
    (now : Instant) (supply : IdSupply) (before after : Population) (report : SelectionReport)
    (ranked children : List Organism) : Prop where
  /-- The old organisms are ranked by their scores. -/
  ranking : IsRanking (before.organisms.map (·.scored landscape)) ranked
  survivors : report.survivors = min strategy.survivorCount before.size
  elites : report.elites = min strategy.eliteCount before.size
  offspring : report.offspring = children.length
  /-- No tournament is held among nobody. -/
  contested : 1 ≤ report.survivors ∧ (ranked.take report.survivors).length = report.survivors
  /-- The elites lead the new population as they are, and the children follow. -/
  organisms : after.organisms = ranked.take report.elites ++ children
  carried : (ranked.take report.elites).length = report.elites
  size : after.size = strategy.populationSize
  /-- The children have the next fresh ids, in order. -/
  ids : children.map (·.id) = supply.upcoming report.offspring
  times : ∀ child ∈ children, child.createdAt = now ∧ child.lastEvolutionAt = none
  /-- The parents of each child are survivors. -/
  parents : ∀ child ∈ children, ∃ mother ∈ ranked.take report.survivors,
    ∃ father ∈ ranked.take report.survivors,
      Organism.IsChildOf config.geneEliteBias now mother father child
  counted : report.elites + report.offspring = report.sizeAfter ∧
    report.sizeAfter = strategy.populationSize
  crossovers : report.crossovers ≤ report.offspring
  mutations : report.mutations ≤ report.offspring
  cycles : after.cycles = before.cycles + 1
  measured : after.metrics = Metrics.measure after.organisms config.speciesBucketWidth ∧
    report.metrics = after.metrics

/-- As many organisms as a population has can be taken from its ranking. -/
theorem length_take_rank (landscape : Landscape) (p : Population) (count : Nat) :
    ((rank landscape p.organisms).take (min count p.size)).length = min count p.size := by
  rw [List.length_take, length_rank]
  exact Nat.min_eq_left (Nat.min_le_right count p.size)

/-- A population without organisms stays as it is, and nothing is drawn for it. -/
theorem select_of_nil {config : NurseryConfig} {strategy : Strategy} {landscape : Landscape}
    {now : Instant} {p : Population} {rng : Rng} {supply : IdSupply}
    (empty : p.organisms = []) :
    select config strategy landscape now p rng supply =
      ⟨p, idleReport p strategy, [], rng, supply⟩ := by
  have ranked : rank landscape p.organisms = [] := by
    apply List.length_eq_zero_iff.mp
    rw [length_rank, empty, List.length_nil]
  unfold select
  dsimp only
  rw [ranked]

/-- A cycle of selection laid open: a litter is bred from the survivors, as large as
what the elites leave of the size, and is named and put behind the elites.  Nothing else
is drawn. -/
theorem select_eq (config : NurseryConfig) (strategy : Strategy) (landscape : Landscape)
    (now : Instant) {p : Population} (rng : Rng) (supply : IdSupply)
    (nonempty : p.organisms ≠ []) :
    let ranked := rank landscape p.organisms
    let survivors := min strategy.survivorCount p.size
    let elites := min strategy.eliteCount p.size
    let selected := select config strategy landscape now p rng supply
    ∃ best litter,
      (drawLitter best (ranked.take survivors) config strategy now
        (strategy.populationSize - elites)).run rng = (litter, selected.rng) ∧
      let organisms := ranked.take elites ++ named (unnamed litter) (supply.upcoming litter.length)
      let metrics := Metrics.measure organisms config.speciesBucketWidth
      selected.population =
          { p with organisms := organisms, cycles := p.cycles + 1, metrics := metrics } ∧
        selected.supply = supply.skip litter.length ∧
        selected.report =
          { population := p.name
            strategy := strategy.name
            sizeBefore := p.size
            sizeAfter := organisms.length
            survivors := survivors
            elites := elites
            offspring := litter.length
            crossovers := litter.countP fun child => child.parents.isSome
            mutations := litter.countP fun child => child.outcome.isSome
            metrics := metrics } := by
  have counted : (rank landscape p.organisms).length = p.size := length_rank landscape p.organisms
  intro ranked survivors elites selected
  have unfolded : selected = select config strategy landscape now p rng supply := rfl
  unfold select at unfolded
  dsimp only at unfolded
  split at unfolded
  · -- a ranking is as long as its population, hence not empty
    rename_i empty
    rw [empty] at counted
    exact absurd (List.length_eq_zero_iff.mp counted.symm) nonempty
  · rename_i best others _
    rw [counted] at unfolded
    generalize run : (drawLitter best _ config strategy now _).run rng = drawn at unfolded
    obtain ⟨litter, later⟩ := drawn
    obtain ⟨children, skipped⟩ := nameOffspring_spec p.name now supply litter
    refine ⟨best, litter, ?_⟩
    rw [unfolded]
    dsimp only
    rw [run, children, skipped]
    exact ⟨rfl, rfl, rfl, rfl⟩

/-- A cycle of selection on a population with organisms. -/
theorem select_isSelection (config : NurseryConfig) (strategy : Strategy)
    (landscape : Landscape) (now : Instant) {p : Population} (rng : Rng) (supply : IdSupply)
    (nonempty : p.organisms ≠ []) :
    let selected := select config strategy landscape now p rng supply
    selected.supply = supply.skip selected.report.offspring ∧
      ∃ children, IsSelection config strategy landscape now supply p selected.population
        selected.report (rank landscape p.organisms) children := by
  intro selected
  have positive : 0 < p.size := List.length_pos_iff.mpr nonempty
  have breeders := strategy.one_le_survivorCount
  have room := strategy.eliteCount_le
  obtain ⟨best, litter, bred, population, skipped, report⟩ :=
    select_eq config strategy landscape now rng supply nonempty
  have pool : (rank landscape p.organisms).take (min strategy.survivorCount p.size) ≠ [] := by
    apply List.length_pos_iff.mp
    rw [length_take_rank]
    omega
  have possible : Draw.Yields _ litter := ⟨rng, congrArg Prod.fst bred⟩
  obtain ⟨size, counted, ids, parents⟩ := named_drawLitter pool possible supply
  generalize named (unnamed litter) (supply.upcoming litter.length) = children at *
  change selected.population = _ at population
  change selected.supply = _ at skipped
  change selected.report = _ at report
  have contested : 1 ≤ min strategy.survivorCount p.size := by omega
  have carried := length_take_rank landscape p strategy.eliteCount
  -- what the elites leave of the size is what is bred, since they never exceed it
  have filled : min strategy.eliteCount p.size + litter.length = strategy.populationSize := by
    omega
  have total : ((rank landscape p.organisms).take (min strategy.eliteCount p.size) ++
      children).length = strategy.populationSize := by
    rw [List.length_append, carried, counted, filled]
  rw [population, skipped, report]
  refine ⟨rfl, children, ?_⟩
  exact {
    ranking := rank_isRanking landscape p.organisms
    survivors := rfl
    elites := rfl
    offspring := counted.symm
    contested := ⟨contested, length_take_rank landscape p strategy.survivorCount⟩
    organisms := rfl
    carried := carried
    size := total
    ids := ids
    times := by
      intro child member
      obtain ⟨mother, -, father, -, kin⟩ := parents child member
      exact kin.times
    parents := parents
    counted := ⟨filled.trans total.symm, total⟩
    crossovers := List.countP_le_length
    mutations := List.countP_le_length
    cycles := rfl
    measured := ⟨rfl, rfl⟩ }

/-! ## A cycle of a nursery -/

section Nursery

variable {n : Nursery} {name strategyName : String} {strategy : Strategy}
  {landscape : Landscape} {p : Population}

/-- Whatever it comes to, a cycle only takes ids from the front of the supply. -/
theorem select_advances (config : NurseryConfig) (strategy : Strategy) (landscape : Landscape)
    (now : Instant) (p : Population) (rng : Rng) (supply : IdSupply) :
    supply.Advances (select config strategy landscape now p rng supply).supply := by
  by_cases empty : p.organisms = []
  · rw [select_of_nil empty]
    exact IdSupply.Advances.refl supply
  · rw [(select_isSelection config strategy landscape now rng supply empty).1]
    exact supply.advances_skip _

/-- What a cycle on a population of a nursery comes to, once all that it needs is
found. -/
theorem performSelection_eq (supply : IdSupply) (now : Instant)
    (known : n.strategies.find? strategyName = some strategy)
    (placed : n.landscapes.find? n.config.defaultLandscape = some landscape)
    (held : n.populations.find? name = some p) :
    let selected := select n.config strategy landscape now p n.rng supply
    n.performSelection supply name strategyName now =
      .ok (selected.report,
        { n.put name selected.population with
          rng := selected.rng
          counters := n.counters.record selected.report selected.events
          history := n.history.pushAll selected.events },
        selected.supply) := by
  intro selected
  simp only [Nursery.performSelection, Nursery.strategy, Nursery.landscape, Nursery.population,
    known, placed, held]
  rfl

/-- A cycle of selection on a population with organisms succeeds and fills the
population to the size of the strategy. -/
theorem performSelection_isSelection (supply : IdSupply) (now : Instant)
    (known : n.strategies.find? strategyName = some strategy)
    (placed : n.landscapes.find? n.config.defaultLandscape = some landscape)
    (held : n.populations.find? name = some p) (nonempty : p.organisms ≠ []) :
    ∃ report later after children,
      n.performSelection supply name strategyName now =
          .ok (report, later, supply.skip report.offspring) ∧
        later.populations = n.populations.insert name after ∧
        IsSelection n.config strategy landscape now supply p after report
          (rank landscape p.organisms) children := by
  obtain ⟨skipped, children, selection⟩ :=
    select_isSelection n.config strategy landscape now n.rng supply nonempty
  have performed := performSelection_eq supply now known placed held
  dsimp only at performed
  rw [skipped] at performed
  exact ⟨_, _, _, children, performed, rfl, selection⟩

/-- An organism of a pond.  The greater the number is, the fitter is the organism, and every
fifth one starts over. -/
def swimmer (number : Nat) : Organism :=
  { Organism.newborn ("swimmer " ++ toString number) ⟨0, 0⟩ with
    state := { State.initial with fitness := Number.ofNat (number % 5) / 5.0 } }

/-- A new nursery after a pond of twelve organisms was put into it.  Ten of them survive to have
children, and two are carried over. -/
theorem performSelection_isSelection_pond :
    let pond := { Population.founded "pond" "balanced" ⟨0, 0⟩ with
      organisms := (List.range 12).map swimmer }
    let n := (Nursery.founded NurseryConfig.standard (Rng.ofSeed 7)).put "pond" pond
    let supply : IdSupply := ⟨fun k => ⟨BitVec.ofNat 128 k⟩, 0⟩
    ∃ report later after children,
      n.performSelection supply "pond" "balanced" ⟨0, 0⟩ =
          .ok (report, later, supply.skip report.offspring) ∧
        later.populations = n.populations.insert "pond" after ∧
        IsSelection n.config Strategy.balanced Landscape.standard ⟨0, 0⟩ supply pond after report
          (rank Landscape.standard pond.organisms) children ∧
        report.survivors = 10 ∧ report.elites = 2 ∧ report.offspring = 18 := by
  intro pond n supply
  have known : n.strategies.find? "balanced" = some Strategy.balanced := rfl
  have placed : n.landscapes.find? n.config.defaultLandscape = some Landscape.standard := rfl
  have held : n.populations.find? "pond" = some pond := rfl
  have somebody : pond.organisms ≠ [] := List.cons_ne_nil _ _
  obtain ⟨report, later, after, children, performed, populations, selection⟩ :=
    performSelection_isSelection supply ⟨0, 0⟩ known placed held somebody
  have survivors : report.survivors = 10 := selection.survivors.trans (by decide +kernel)
  have elites : report.elites = 2 := selection.elites.trans (by decide +kernel)
  have whole : report.elites + report.offspring = 20 :=
    selection.counted.1.trans selection.counted.2
  refine ⟨report, later, after, children, performed, populations, selection, survivors, elites, ?_⟩
  omega

end Nursery

end Vivarium
