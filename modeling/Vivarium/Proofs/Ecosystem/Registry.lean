import Vivarium.Proofs.Breeding.Cycle
import Vivarium.Proofs.Breeding.Landscape
import Vivarium.Proofs.Ecosystem.Course
import Vivarium.Proofs.Ecosystem.Transfer

/-!
# Registered strategies and landscapes

A nursery holds strategies and landscapes under their names.  It starts with standard ones,
and others come by registration only, which checks them.  Every other request leaves both
tables as they are, so that whatever is found in them has passed its check, and what a
registered landscape says is heeded when it scores an organism.

Main definitions:

* `Nursery.IsVetted`: all that is registered has passed its check.

Main statements:

* `Ecosystem.isVetted_of_effect`: a request keeps the tables vetted;
* `Ecosystem.registered_heeded`: a whole course of requests.
-/

namespace Vivarium

namespace Nursery

/-- All strategies and landscapes of the nursery have passed their checks. -/
structure IsVetted (n : Nursery) : Prop where
  strategies : ∀ s ∈ n.strategies.values, s.fault? = none
  landscapes : ∀ l ∈ n.landscapes.values, l.fault? = none

theorem isVetted_founded (config : NurseryConfig) (rng : Rng) :
    (founded config rng).IsVetted where
  strategies := by
    have tables : (founded config rng).strategies =
        Directory.ofList (Strategy.standard.map fun s => (s.name, s)) := rfl
    rw [tables]
    decide +kernel
  landscapes := by
    have tables : (founded config rng).landscapes =
        Directory.ofList [(Landscape.standard.name, Landscape.standard)] := rfl
    rw [tables]
    decide +kernel

variable {n after : Nursery}

/-- A nursery with the tables of a vetted one is vetted. -/
theorem IsVetted.of_tables (vetted : n.IsVetted) (strategies : after.strategies = n.strategies)
    (landscapes : after.landscapes = n.landscapes) : after.IsVetted where
  strategies := by
    rw [strategies]
    exact vetted.strategies
  landscapes := by
    rw [landscapes]
    exact vetted.landscapes

theorem IsVetted.insert_strategy (vetted : n.IsVetted) {s : Strategy}
    (faultless : s.fault? = none) :
    ({ n with strategies := n.strategies.insert s.name s } : Nursery).IsVetted where
  strategies := by
    intro other member
    rcases Directory.mem_values_insert member with rfl | before
    · exact faultless
    · exact vetted.strategies other before
  landscapes := vetted.landscapes

theorem IsVetted.insert_landscape (vetted : n.IsVetted) {l : Landscape}
    (faultless : l.fault? = none) :
    ({ n with landscapes := n.landscapes.insert l.name l } : Nursery).IsVetted where
  strategies := vetted.strategies
  landscapes := by
    intro other member
    rcases Directory.mem_values_insert member with rfl | before
    · exact faultless
    · exact vetted.landscapes other before

end Nursery

namespace Ecosystem

variable {e later : Ecosystem} {now : Instant}

/-- Only registrations write to the tables of a nursery, and they check what they write. -/
theorem isVetted_of_effect {α : Type} {request : Request α} {answer : α}
    (vetted : e.nursery.IsVetted) (effect : e.Effect now request answer later) :
    later.nursery.IsVetted := by
  cases effect with
  | registerStrategy faultless => exact vetted.insert_strategy faultless
  | registerLandscape faultless => exact vetted.insert_landscape faultless
  | createPopulation created =>
      obtain ⟨strategy, -, -, -, -, rfl, -⟩ := Nursery.of_createPopulation created
      exact vetted.of_tables rfl rfl
  | performSelection performed =>
      obtain ⟨strategies, landscapes, -, -⟩ := Nursery.kept_of_performSelection performed
      exact vetted.of_tables strategies landscapes
  | runCycle performed =>
      obtain ⟨-, last, -, selected, rfl⟩ := Nursery.of_runCycle performed
      obtain ⟨strategies, landscapes, -, -⟩ := Nursery.kept_of_selections selected
      exact vetted.of_tables strategies landscapes
  | removePopulation held => exact vetted.of_tables rfl rfl
  | harvest population known registered => exact vetted.of_tables rfl rfl
  | release known held => exact vetted.of_tables rfl rfl
  | releaseAll known => exact vetted.of_tables rfl rfl
  | register | execute | evolve | modify | remove | removeNothing | tick | shutdown =>
      -- requests to the habitat
      exact vetted

/-- Whatever strategies and landscapes have come to be registered, they pass their checks.  A
landscape that does so is heeded: each of its constraints compares the value of an objective
with a number, and each of its objectives has a value and a share in the score. -/
theorem registered_heeded {c : Config} {habitatSeed nurserySeed : Nat} {supply : IdSupply}
    {exchanges : List Exchange} {e : Ecosystem}
    (course : Course (founded c habitatSeed nurserySeed supply) exchanges e) :
    (∀ s ∈ e.nursery.strategies.values, s.fault? = none) ∧
    (∀ l ∈ e.nursery.landscapes.values, l.fault? = none) ∧
    ∀ l : Landscape, l.fault? = none → l.IsHeeded := by
  have vetted : e.nursery.IsVetted := by
    have fits : ∀ x ∈ exchanges, True := fun _ _ => trivial
    refine course.keeps (fun e => e.nursery.IsVetted) fits (Nursery.isVetted_founded _ _) ?_
    intro e later x answer held _ _ effect
    exact isVetted_of_effect held effect
  exact ⟨vetted.strategies, vetted.landscapes, fun _ => Landscape.isHeeded_of_fault?_eq_none⟩

/-- A strategy without crossover. -/
def budding : Strategy := { Strategy.balanced with name := "budding", crossoverRate := 0.0 }

/-- A landscape that favours tired organisms, the alert ones among them. -/
def heath : Landscape where
  name := "heath"
  dimensions := ["energy"]
  objectives := [⟨"energy", 2.0, false⟩]
  constraints := [⟨"alert", .soft, "consciousness >= 2.5e-1"⟩, ⟨"stable", .hard, "resilience != 1"⟩]

/-- Both are registered in a new ecosystem. -/
theorem registered_heeded_heath :
    let strategies := wasteland.nursery.strategies.insert "budding" budding
    let landscapes := wasteland.nursery.landscapes.insert "heath" heath
    (∀ s ∈ strategies.values, s.fault? = none) ∧ (∀ l ∈ landscapes.values, l.fault? = none) ∧
      heath.IsHeeded := by
  intro strategies landscapes
  have checkedStrategy : budding.fault? = none := by decide +kernel
  have checkedLandscape : heath.fault? = none := by decide +kernel
  have course : Course wasteland
      [Exchange.granted ⟨0, 0⟩ (.registerStrategy budding) (),
        Exchange.granted ⟨0, 0⟩ (.registerLandscape heath) ()]
      { wasteland with
        nursery :=
          { wasteland.nursery with strategies := strategies, landscapes := landscapes } } :=
    (Course.start.step (serves_of_effect (Effect.registerStrategy checkedStrategy))).step
      (serves_of_effect (Effect.registerLandscape checkedLandscape))
  obtain ⟨vettedStrategies, vettedLandscapes, heeded⟩ := registered_heeded course
  exact ⟨vettedStrategies, vettedLandscapes, heeded heath checkedLandscape⟩

end Ecosystem

end Vivarium
