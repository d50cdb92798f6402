import Vivarium.Proofs.Breeding.Operation
import Vivarium.Proofs.Breeding.Renaming

/-!
# Nurseries under other ids

A nursery finds populations, strategies and landscapes by their names, which no renaming of ids
touches.  Each operation on the renamed nursery meets the same fault, or comes to the renamed
result.

Fresh ids are drawn from a supply that gives out the renamed ones in front of a limit.  Hence an
operation that succeeds must not go beyond the limit; nothing is asked of one that fails.

Main definitions:

* `Nursery.renamed`: the nursery under the new ids.

Main statements:

* `fill_renamed`, `createPopulation_renamed`: populations come alike;
* `performSelection_renamed`, `runCycle_renamed`: and are bred alike.
-/

namespace Vivarium

variable {π : Renaming} {limit : Nat} {supply other : IdSupply} {now : Instant}

open IdSupply (Mirrors)

/-- The fault with new ids. -/
def NurseryFault.renamed (π : Renaming) : NurseryFault → NurseryFault
  | .organismNotInPopulation id population => .organismNotInPopulation (π id) population
  | fault => fault

namespace Nursery

/-- The nursery under the new ids. -/
def renamed (π : Renaming) (n : Nursery) : Nursery :=
  { n with
    populations := n.populations.mapValues fun _ p => p.renamed π
    history := n.history.renamed π }

/-- What comes with a nursery and has no ids, the nursery under the new ones, and the supply
when it has come as far. -/
def renamedWith {α : Type} (π : Renaming) (other : IdSupply) (result : α × Nursery × IdSupply) :
    α × Nursery × IdSupply :=
  (result.1, result.2.1.renamed π, other.follow result.2.2)

variable {n : Nursery} {name strategyName : String}

theorem find?_renamed (n : Nursery) (name : String) :
    (n.renamed π).populations.find? name =
      (n.populations.find? name).map (Population.renamed π) :=
  Directory.find?_mapValues n.populations _ name

theorem contains_renamed (n : Nursery) (name : String) :
    (n.renamed π).populations.contains name = n.populations.contains name := by
  rw [Directory.contains, find?_renamed, Option.isSome_map, Directory.contains]

theorem populationNames_renamed (n : Nursery) :
    (n.renamed π).populationNames = n.populationNames := Directory.keys_mapValues _ _

theorem renamed_put (n : Nursery) (name : String) (p : Population) :
    (n.put name p).renamed π = (n.renamed π).put name (p.renamed π) := by
  simp only [put, renamed, Directory.mapValues_insert]

theorem registerStrategy_renamed (n : Nursery) (s : Strategy) :
    (n.renamed π).registerStrategy s =
      mapOutcome (NurseryFault.renamed π) (renamed π) (n.registerStrategy s) := by
  unfold registerStrategy
  cases s.fault? <;> rfl

theorem registerLandscape_renamed (n : Nursery) (l : Landscape) :
    (n.renamed π).registerLandscape l =
      mapOutcome (NurseryFault.renamed π) (renamed π) (n.registerLandscape l) := by
  unfold registerLandscape
  cases l.fault? <;> rfl

/-! ## New populations -/

theorem fill_renamed (mirrors : Mirrors π limit supply other) (n : Nursery) {p : Population}
    {seeds : List Organism} {size : Nat}
    (room : (n.fill p seeds size now supply).2.2.issued ≤ limit) :
    (n.renamed π).fill (p.renamed π) (seeds.map (Organism.renamed π)) size now other =
      let filled := n.fill p seeds size now supply
      (filled.1.renamed π, filled.2.1.renamed π, other.follow filled.2.2) := by
  have seeded : (drawClones (seeds.map (Organism.renamed π)) now (size - p.size)).run n.rng =
      let drawn := (drawClones seeds now (size - p.size)).run n.rng
      (drawn.1.map (Clone.renamed π), drawn.2) := by
    rw [drawClones_renamed, StateT.run_map]
    rfl
  have rng : (n.renamed π).rng = n.rng := rfl
  unfold fill at room ⊢
  rw [Population.size_renamed, rng, seeded]
  generalize (drawClones seeds now (size - p.size)).run n.rng = drawn at room ⊢
  obtain ⟨clones, later⟩ := drawn
  dsimp only at room ⊢
  rw [enrollClones_renamed mirrors room, List.length_map]
  simp only [Population.renamed_remeasure, renamed, EventLog.renamed_pushAll]

theorem withNewPopulation_renamed (mirrors : Mirrors π limit supply other) (n : Nursery)
    (name : String) {seeds : List Organism} {strategy : Strategy}
    (room : (n.withNewPopulation supply name seeds strategy now).2.2.issued ≤ limit) :
    (n.renamed π).withNewPopulation other name (seeds.map (Organism.renamed π)) strategy now =
      let filled := n.withNewPopulation supply name seeds strategy now
      (filled.1.renamed π, filled.2.1.renamed π, other.follow filled.2.2) := by
  let enrolled := enrollAll (Population.founded name strategy.name now) supply seeds
  have advances : supply.Advances enrolled.2.2 := enrollAll_advances _ supply seeds
  have more := fill_advances n enrolled.2.1 seeds strategy.populationSize now enrolled.2.2
  have arrived : enrollAll (Population.founded name strategy.name now) other
      (seeds.map (Organism.renamed π)) = _ :=
    enrollAll_renamed (p := Population.founded name strategy.name now) mirrors
      (Nat.le_trans more.issued room)
  unfold withNewPopulation
  rw [arrived]
  exact fill_renamed (mirrors.follow advances) n room

theorem createPopulation_renamed (mirrors : Mirrors π limit supply other) (n : Nursery)
    {seeds : List Organism}
    (room : ∀ result, n.createPopulation supply name seeds strategyName now = .ok result →
      result.2.2.issued ≤ limit) :
    (n.renamed π).createPopulation other name (seeds.map (Organism.renamed π)) strategyName now =
      mapOutcome (NurseryFault.renamed π) (renamedWith π other)
        (n.createPopulation supply name seeds strategyName now) := by
  rw [createPopulation_eq] at room
  rw [createPopulation_eq, createPopulation_eq, contains_renamed, List.isEmpty_map]
  have strategies : (n.renamed π).strategies = n.strategies := rfl
  rw [strategies]
  cases known : n.strategies.find? strategyName with
  | none => rfl
  | some strategy =>
      rw [known] at room
      dsimp only at room ⊢
      by_cases barren : seeds.isEmpty = true
      · rw [if_pos barren, if_pos barren]
        rfl
      by_cases taken : n.populations.contains name = true
      · rw [if_neg barren, if_neg barren, if_pos taken, if_pos taken]
        rfl
      rw [if_neg barren, if_neg taken] at room
      have filled := withNewPopulation_renamed mirrors n name (room _ rfl)
      rw [if_neg barren, if_neg barren, if_neg taken, if_neg taken, filled]
      simp only [mapOutcome, renamedWith, renamed_put]
      rfl

theorem removePopulation_renamed (n : Nursery) (name : String) :
    (n.renamed π).removePopulation name =
      mapOutcome (NurseryFault.renamed π)
        (fun result => (result.1.renamed π, result.2.renamed π)) (n.removePopulation name) := by
  unfold removePopulation population
  rw [find?_renamed]
  cases n.populations.find? name with
  | none => rfl
  | some p =>
      show Except.ok _ = Except.ok _
      simp only [renamed, Directory.mapValues_erase]

/-! ## Selection -/

/-- Events count alike whatever ids they tell of. -/
theorem countKind_renamed (kind : Event.Kind) (events : List Event) :
    NurseryCounters.countKind kind (events.map (Event.renamed π)) =
      NurseryCounters.countKind kind events := List.countP_map

theorem withSelected_renamed (n : Nursery) (name : String) (selected : Selected) :
    (n.renamed π).withSelected name (selected.renamed π other) =
      (n.withSelected name selected).renamed π := by
  have counted : n.counters.record selected.report (selected.events.map (Event.renamed π)) =
      n.counters.record selected.report selected.events := by
    simp only [NurseryCounters.record, countKind_renamed]
  have history : (n.history.pushAll selected.events).renamed π =
      (n.history.renamed π).pushAll (selected.events.map (Event.renamed π)) :=
    n.history.renamed_pushAll selected.events
  have populations := Directory.mapValues_insert (fun _ p => Population.renamed π p)
    n.populations name selected.population
  simp only [withSelected, Selected.renamed, renamed, put, counted, history, populations]

theorem population_renamed (n : Nursery) (name : String) :
    (n.renamed π).population name =
      mapOutcome (NurseryFault.renamed π) (Population.renamed π) (n.population name) := by
  unfold population
  rw [find?_renamed]
  cases n.populations.find? name <;> rfl

theorem performSelection_renamed (mirrors : Mirrors π limit supply other) (n : Nursery)
    (room : ∀ result, n.performSelection supply name strategyName now = .ok result →
      result.2.2.issued ≤ limit) :
    (n.renamed π).performSelection other name strategyName now =
      mapOutcome (NurseryFault.renamed π) (renamedWith π other)
        (n.performSelection supply name strategyName now) := by
  have strategies : (n.renamed π).strategies = n.strategies := rfl
  have landscapes : (n.renamed π).landscapes = n.landscapes := rfl
  have config : (n.renamed π).config = n.config := rfl
  unfold performSelection Nursery.strategy Nursery.landscape at room ⊢
  rw [strategies, landscapes, config, population_renamed]
  unfold population at room ⊢
  cases known : n.strategies.find? strategyName with
  | none => rfl
  | some strategy =>
      cases placed : n.landscapes.find? n.config.defaultLandscape with
      | none => rfl
      | some landscape =>
          cases held : n.populations.find? name with
          | none => rfl
          | some p =>
              rw [known, placed, held] at room
              let finished (s : Selected) :
                  Except NurseryFault (SelectionReport × Nursery × IdSupply) :=
                .ok (s.report, (n.renamed π).withSelected name s, s.supply)
              have selected := select_renamed mirrors (room _ rfl)
              show finished (select n.config strategy landscape now (p.renamed π) n.rng other) = _
              rw [selected]
              simp only [finished, withSelected_renamed]
              rfl

/-- While all populations are there and all is known that selection needs, cycles on several
ones succeed, for the renamed nursery as well. -/
theorem exists_selectAll_renamed (mirrors : Mirrors π limit supply other) (now : Instant)
    {n : Nursery} {strategy : Strategy} {landscape : Landscape} {names : List String}
    (known : n.strategies.find? strategyName = some strategy)
    (placed : n.landscapes.find? n.config.defaultLandscape = some landscape)
    (held : ∀ name ∈ names, n.populations.contains name = true) :
    ∃ reports after later, n.selectAll supply strategyName now names = .ok (reports, after, later) ∧
      (later.issued ≤ limit →
        (n.renamed π).selectAll other strategyName now names =
          .ok (reports, after.renamed π, other.follow later)) := by
  induction names generalizing n supply other with
  | nil =>
      refine ⟨[], n, supply, rfl, fun _ => ?_⟩
      rw [mirrors.follow_self]
      rfl
  | cons name rest inductionHypothesis =>
      obtain ⟨p, found⟩ := Directory.contains_iff.mp (held name List.mem_cons_self)
      obtain ⟨report, middle, between, performed⟩ : ∃ report middle between,
          n.performSelection supply name strategyName now = .ok (report, middle, between) :=
        ⟨_, _, _, performSelection_eq supply now known placed found⟩
      -- the rest finds what the first cycle has found
      obtain ⟨strategies, landscapes, config, populations⟩ := kept_of_performSelection performed
      have advances := advances_of_performSelection performed
      obtain ⟨reports, after, later, others, othersToo⟩ := inductionHypothesis
        (mirrors.follow advances) (strategies ▸ known) (config ▸ landscapes ▸ placed)
        (fun other member => populations other (held other (List.mem_cons_of_mem _ member)))
      refine ⟨report :: reports, after, later, ?_, fun room => ?_⟩
      · rw [selectAll, performed]
        show (middle.selectAll between strategyName now rest >>= _) = _
        rw [others]
        rfl
      · have further : between.Advances later :=
          kept_of_selectAll (fun _ reached => between.Advances reached)
            (fun reached performed => reached.trans (advances_of_performSelection performed))
            (IdSupply.Advances.refl between) others
        have firstRoom : ∀ result, n.performSelection supply name strategyName now = .ok result →
            result.2.2.issued ≤ limit := by
          intro result same
          obtain rfl := Except.ok.inj (performed.symm.trans same)
          exact Nat.le_trans further.issued room
        rw [selectAll, performSelection_renamed mirrors n firstRoom, performed]
        show ((middle.renamed π).selectAll (other.follow between) strategyName now rest >>= _) = _
        rw [othersToo room]
        rfl

/-- Without a landscape the first population meets the fault, under whatever ids. -/
theorem selectAll_of_missing (n : Nursery) (supply : IdSupply) (now : Instant) {strategy : Strategy}
    (known : n.strategies.find? strategyName = some strategy)
    (missing : n.landscapes.find? n.config.defaultLandscape = none) (name : String)
    (rest : List String) :
    n.selectAll supply strategyName now (name :: rest) =
      .error (.landscapeNotFound n.config.defaultLandscape) := by
  simp only [selectAll, performSelection, Nursery.strategy, Nursery.landscape, known, missing]
  rfl

theorem selectAll_renamed (mirrors : Mirrors π limit supply other) (now : Instant) (n : Nursery)
    {strategy : Strategy} (known : n.strategies.find? strategyName = some strategy)
    (room : ∀ result, n.selectAll supply strategyName now n.populationNames = .ok result →
      result.2.2.issued ≤ limit) :
    (n.renamed π).selectAll other strategyName now n.populationNames =
      mapOutcome (NurseryFault.renamed π) (renamedWith π other)
        (n.selectAll supply strategyName now n.populationNames) := by
  have held : ∀ name ∈ n.populationNames, n.populations.contains name = true :=
    fun name listed => Directory.contains_of_mem_keys listed
  cases placed : n.landscapes.find? n.config.defaultLandscape with
  | some landscape =>
      obtain ⟨reports, after, later, performed, performedToo⟩ :=
        exists_selectAll_renamed (π := π) mirrors now known placed held
      rw [performed, performedToo (room _ performed)]
      rfl
  | none =>
      cases n.populationNames with
      | nil => exact congrArg (fun s => Except.ok ([], n.renamed π, s)) mirrors.follow_self.symm
      | cons name rest =>
          rw [selectAll_of_missing n supply now known placed]
          exact selectAll_of_missing (n.renamed π) other now known placed name rest

theorem runCycle_renamed (mirrors : Mirrors π limit supply other) (n : Nursery)
    (room : ∀ result, n.runCycle supply now = .ok result → result.2.2.issued ≤ limit) :
    (n.renamed π).runCycle other now =
      mapOutcome (NurseryFault.renamed π) (renamedWith π other) (n.runCycle supply now) := by
  have config : (n.renamed π).config = n.config := rfl
  have strategies : (n.renamed π).strategies = n.strategies := rfl
  unfold runCycle Nursery.strategy at room ⊢
  rw [config, strategies, populationNames_renamed]
  cases known : n.strategies.find? n.config.defaultStrategy with
  | none => rfl
  | some strategy =>
      rw [known] at room
      have selected := selectAll_renamed mirrors now n known (by
        rintro ⟨reports, last, reached⟩ performed
        have within := room _ (bind_eq_ok.mpr ⟨strategy, rfl,
          bind_eq_ok.mpr ⟨_, performed, rfl⟩⟩)
        exact within)
      show ((n.renamed π).selectAll other _ now n.populationNames >>= _) =
        mapOutcome _ _ (n.selectAll supply _ now n.populationNames >>= _)
      rw [selected]
      cases n.selectAll supply n.config.defaultStrategy now n.populationNames with
      | error fault => rfl
      | ok result => rfl

end Nursery

end Vivarium
