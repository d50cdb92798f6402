import Vivarium.Proofs.Breeding.Operation

/-!
# Cycles of a nursery

A cycle selects on all populations in turn, with one strategy and in one landscape.  It goes
through when it finds both by name; a nursery without populations does not ask for the
landscape.  Nothing else can go wrong, and a cycle takes nothing away that the next one needs.
So either every cycle of a nursery goes through, or none does.

Main definitions:

* `Nursery.CanCycle`: what a cycle needs is there.

Main statements:

* `Nursery.canCycle_iff`: a cycle goes through exactly then;
* `Nursery.canCycle_of_runCycle`, `cycles_of_runCycle`: it leaves all this there, and counts.
-/

namespace Vivarium

namespace Nursery

/-- The strategy of the configuration is known, and so is its landscape, if there is a
population to be scored in it. -/
def CanCycle (n : Nursery) : Prop :=
  n.strategies.contains n.config.defaultStrategy = true ∧
    (n.landscapes.contains n.config.defaultLandscape = true ∨ n.populationNames = [])

instance (n : Nursery) : Decidable n.CanCycle := inferInstanceAs (Decidable (_ ∧ _))

variable {n after : Nursery} {supply later : IdSupply} {strategyName : String} {now : Instant}

/-- Selections go through on all populations that are there. -/
theorem exists_selectAll {names : List String}
    (known : n.strategies.contains strategyName = true)
    (placed : n.landscapes.contains n.config.defaultLandscape = true ∨ names = [])
    (held : ∀ name ∈ names, n.populations.contains name = true) :
    ∃ result, n.selectAll supply strategyName now names = .ok result := by
  induction names generalizing n supply with
  | nil => exact ⟨_, rfl⟩
  | cons name rest inductionHypothesis =>
      obtain ⟨strategy, stored⟩ := Directory.contains_iff.mp known
      obtain ⟨landscape, found⟩ :=
        Directory.contains_iff.mp (placed.resolve_right (List.cons_ne_nil _ _))
      obtain ⟨p, there⟩ := Directory.contains_iff.mp (held name List.mem_cons_self)
      have performed := performSelection_eq supply now stored found there
      obtain ⟨strategies, landscapes, config, populations⟩ := kept_of_performSelection performed
      obtain ⟨others, selected⟩ := inductionHypothesis
        (by rw [strategies]; exact known)
        (by rw [landscapes, config]; exact placed.imp_right fun impossible => nomatch impossible)
        (fun other member => populations other (held other (List.mem_cons_of_mem _ member)))
      exact ⟨_, bind_eq_ok.mpr ⟨_, performed, bind_eq_ok.mpr ⟨_, selected, rfl⟩⟩⟩

/-- A cycle goes through exactly when all that it needs is there. -/
theorem canCycle_iff (supply : IdSupply) (now : Instant) :
    n.CanCycle ↔ ∃ result, n.runCycle supply now = .ok result := by
  constructor
  · rintro ⟨known, placed⟩
    obtain ⟨strategy, stored⟩ := Directory.contains_iff.mp known
    have looked : n.strategy n.config.defaultStrategy = .ok strategy := by
      rw [Nursery.strategy, stored]
    obtain ⟨result, selected⟩ : ∃ result,
        n.selectAll supply n.config.defaultStrategy now n.populationNames = .ok result :=
      exists_selectAll known placed fun name listed => Directory.contains_of_mem_keys listed
    exact ⟨_, bind_eq_ok.mpr ⟨_, looked, bind_eq_ok.mpr ⟨_, selected, rfl⟩⟩⟩
  · rintro ⟨⟨reports, after, later⟩, performed⟩
    obtain ⟨strategy, last, looked, selected, -⟩ := of_runCycle performed
    refine ⟨?_, ?_⟩
    · unfold Nursery.strategy at looked
      cases stored : n.strategies.find? n.config.defaultStrategy with
      | none =>
          rw [stored] at looked
          cases looked
      | some _ => exact Directory.contains_iff.mpr ⟨_, stored⟩
    · cases names : n.populationNames with
      | nil => exact Or.inr rfl
      | cons name rest =>
          -- the first population was scored, so that there was a landscape to do it in
          rw [names] at selected
          obtain ⟨⟨report, between, supplied⟩, performed, -⟩ := bind_eq_ok.mp selected
          obtain ⟨-, landscape, -, -, found, -⟩ := of_performSelection performed
          exact Or.inl (Directory.contains_iff.mpr ⟨landscape, found⟩)

/-- Selections keep strategies, landscapes and the configuration, and count no cycle. -/
theorem kept_of_selections {names : List String} {reports : List SelectionReport}
    (selected : n.selectAll supply strategyName now names = .ok (reports, after, later)) :
    after.strategies = n.strategies ∧ after.landscapes = n.landscapes ∧
      after.config = n.config ∧ after.counters.cycles = n.counters.cycles := by
  refine kept_of_selectAll
    (fun reached _ => reached.strategies = n.strategies ∧ reached.landscapes = n.landscapes ∧
      reached.config = n.config ∧ reached.counters.cycles = n.counters.cycles)
    ?_ ⟨rfl, rfl, rfl, rfl⟩ selected
  rintro _ _ _ _ _ _ ⟨strategies, landscapes, config, cycles⟩ performed
  obtain ⟨strategy, landscape, p, -, -, -, -, rfl, -⟩ := of_performSelection performed
  exact ⟨strategies, landscapes, config, cycles⟩

/-- A cycle that goes through is counted. -/
theorem cycles_of_runCycle {reports : List SelectionReport}
    (performed : n.runCycle supply now = .ok (reports, after, later)) :
    after.counters.cycles = n.counters.cycles + 1 := by
  obtain ⟨-, last, -, selected, rfl⟩ := of_runCycle performed
  obtain ⟨-, -, -, cycles⟩ := kept_of_selections selected
  exact congrArg (· + 1) cycles

/-- After a cycle that went through the next one does. -/
theorem canCycle_of_runCycle {reports : List SelectionReport}
    (performed : n.runCycle supply now = .ok (reports, after, later)) : after.CanCycle := by
  obtain ⟨known, placed⟩ := (canCycle_iff supply now).mpr ⟨_, performed⟩
  obtain ⟨-, last, -, selected, rfl⟩ := of_runCycle performed
  obtain ⟨strategies, landscapes, config, -⟩ := kept_of_selections selected
  refine ⟨?_, ?_⟩
  · show last.strategies.contains last.config.defaultStrategy = true
    rw [strategies, config]
    exact known
  · rcases placed with found | nobody
    · refine Or.inl ?_
      show last.landscapes.contains last.config.defaultLandscape = true
      rw [landscapes, config]
      exact found
    · rw [nobody] at selected
      cases selected
      exact Or.inr nobody

end Nursery

end Vivarium
