import Vivarium.Proofs.Breeding.Operation
import Vivarium.Proofs.Breeding.Trait

/-!
# Heredity in a nursery

A trait that all organisms of a nursery have passes on through an operation of the nursery, if
everyone who is admitted holds the promise of it.  The organisms of a population are those that
were admitted, clones of its seeds, survivors of a cycle of selection, and children of these.

An operation goes at an organism once.  A cycle of all populations selects on one after the
other, and while it does, the organisms of those that are still to come have the trait from
before.

Nothing is asked of the ids.  A clone whose id is taken, or two children under one id, have
the trait like anyone else.

Main definitions:

* `Nursery.All`: the organisms of all populations have a trait;
* `Passes.IsUnderway`: a nursery in the middle of a cycle.

Main statements:

* `Passes.enroll`, `fill`, `select`: what happens to one population;
* `Passes.createPopulation`, `performSelection`, `runCycle`: operations of a nursery.
-/

namespace Vivarium

variable {Promise Before After Trait : Organism → Prop} {p : Population} {supply : IdSupply}
  {now : Instant}

namespace Passes

/-! ## One population -/

/-- Whoever comes to a place on a promise has the trait there, whatever the place holds. -/
theorem enters (passes : Passes Promise Before After) {held : OrganismId → Prop}
    {o settled : Organism} {later : IdSupply} (promised : Promise o)
    (enters : o.normalize.Enters held supply settled later) : After settled := by
  rw [enters.eq_withId]
  exact passes.admitted settled.id promised

theorem enroll (passes : Passes Promise Before After) (common : ∀ x ∈ p.organisms, After x)
    {o : Organism} (promised : Promise o) :
    ∀ x ∈ (p.enroll supply o).2.1.organisms, After x := by
  obtain ⟨settled, later, enters, enrolled⟩ := p.enroll_enters supply o
  rw [enrolled]
  exact List.forall_mem_append.mpr
    ⟨common, List.forall_mem_singleton.mpr (passes.enters promised enters)⟩

theorem enrollAll (passes : Passes Promise Before After)
    (common : ∀ x ∈ p.organisms, After x) {organisms : List Organism}
    (promised : ∀ o ∈ organisms, Promise o) :
    ∀ x ∈ (Nursery.enrollAll p supply organisms).2.1.organisms, After x := by
  induction organisms generalizing p supply with
  | nil => exact common
  | cons o rest inductionHypothesis =>
      obtain ⟨first, others⟩ := List.forall_mem_cons.mp promised
      exact inductionHypothesis (passes.enroll common first) others

/-- Clones come one by one, each under its fresh id. -/
theorem enrollClones (passes : Passes Promise Before After)
    (common : ∀ x ∈ p.organisms, After x) {clones : List Clone}
    (made : ∀ clone ∈ clones, ∀ id, After { clone.organism with id := id }) :
    ∀ x ∈ (Vivarium.enrollClones p now supply clones).1.organisms, After x := by
  induction clones generalizing p supply with
  | nil => exact common
  | cons clone rest inductionHypothesis =>
      obtain ⟨first, others⟩ := List.forall_mem_cons.mp made
      obtain ⟨settled, later, enters, enrolled⟩ :=
        p.enroll_enters supply.next.2 { clone.organism with id := supply.next.1 }
      have new : After settled := by
        rw [enters.eq_withId]
        exact passes.named settled.id (first supply.next.1)
      simp only [Vivarium.enrollClones, enrolled]
      exact inductionHypothesis
        (List.forall_mem_append.mpr ⟨common, List.forall_mem_singleton.mpr new⟩) others

/-- A population is filled with clones of seeds that hold the promise. -/
theorem fill (passes : Passes Promise Before After) (common : ∀ x ∈ p.organisms, After x)
    (n : Nursery) {seeds : List Organism} (promised : ∀ o ∈ seeds, Promise o) (size : Nat) :
    ∀ x ∈ (n.fill p seeds size now supply).1.organisms, After x := by
  refine passes.enrollClones common ?_
  intro clone member id
  obtain ⟨-, kinship⟩ := yields_drawClones (Draw.yields_run (drawClones seeds now _) n.rng)
  obtain ⟨seed, among, kin⟩ := kinship clone member
  exact passes.cloned (promised seed among) ((isCloneOf_of_yields_drawClone kin).renamed id)

/-- The survivors are scored, and the children are bred from survivors. -/
theorem select (passes : Passes Promise Before After) (common : ∀ x ∈ p.organisms, Before x)
    (config : NurseryConfig) (strategy : Strategy) (landscape : Landscape) (rng : Rng) :
    ∀ x ∈ (Vivarium.select config strategy landscape now p rng supply).population.organisms,
      After x := by
  by_cases empty : p.organisms = []
  · rw [select_of_nil empty]
    exact fun x member => passes.kept (common x member)
  obtain ⟨-, children, selection⟩ :=
    select_isSelection config strategy landscape now rng supply empty
  have ranked : ∀ x ∈ rank landscape p.organisms, Before x := by
    intro x member
    obtain ⟨old, among, rfl⟩ := exists_of_mem_rank member
    exact passes.scored landscape (common old among)
  rw [selection.organisms]
  refine List.forall_mem_append.mpr
    ⟨fun x member => passes.kept (ranked x (List.mem_of_mem_take member)), ?_⟩
  intro child member
  obtain ⟨mother, first, father, second, kinship⟩ := selection.parents child member
  exact passes.bred (ranked mother (List.mem_of_mem_take first))
    (ranked father (List.mem_of_mem_take second)) kinship

end Passes

/-! ## Nurseries -/

/-- The organisms of all populations have the trait. -/
def Nursery.All (n : Nursery) (Trait : Organism → Prop) : Prop :=
  ∀ p ∈ n.populations.values, ∀ o ∈ p.organisms, Trait o

namespace Nursery.All

variable {n after : Nursery}

theorem founded (config : NurseryConfig) (rng : Rng) : (Nursery.founded config rng).All Trait := by
  intro p member
  cases member

theorem imp (common : n.All Before) (kept : ∀ {o}, Before o → After o) : n.All After :=
  fun p member o among => kept (common p member o among)

/-- Only the populations of a nursery count. -/
theorem of_populations (common : n.All Trait) (same : after.populations = n.populations) :
    after.All Trait := by
  intro p member
  rw [same] at member
  exact common p member

theorem put (common : n.All Trait) (name : String) (new : ∀ o ∈ p.organisms, Trait o) :
    (n.put name p).All Trait := by
  intro other member
  rcases Directory.mem_values_insert member with rfl | before
  · exact new
  · exact common other before

theorem erase (common : n.All Trait) (name : String) :
    ({ n with populations := n.populations.erase name } : Nursery).All Trait := by
  intro p member
  exact common p (Directory.mem_values_erase member)

theorem of_find? (common : n.All Trait) {name : String}
    (found : n.populations.find? name = some p) :
    ∀ o ∈ p.organisms, Trait o := common p (Directory.mem_values_of_find? found)

end Nursery.All

namespace Passes

variable {n after : Nursery} {later : IdSupply} {name strategyName : String}

theorem createPopulation (passes : Passes Promise Before After) (common : n.All Before)
    {seeds : List Organism} (promised : ∀ o ∈ seeds, Promise o) {metrics : Metrics}
    (created : n.createPopulation supply name seeds strategyName now =
      .ok (metrics, after, later)) : after.All After := by
  obtain ⟨strategy, -, -, -, -, rfl, -⟩ := Nursery.of_createPopulation created
  have unchanged : (n.withNewPopulation supply name seeds strategy now).2.1.All After :=
    (common.imp passes.kept).of_populations rfl
  exact unchanged.put name
    (passes.fill (passes.enrollAll (List.forall_mem_nil _) promised) n promised _)

/-- Selection on one population, which had the trait from before.  The others may have either
one. -/
theorem performSelection (passes : Passes Promise Before After) (common : n.All After)
    (before : ∀ p, n.populations.find? name = some p → ∀ o ∈ p.organisms, Before o)
    {report : SelectionReport}
    (performed : n.performSelection supply name strategyName now = .ok (report, after, later)) :
    after.All After := by
  obtain ⟨strategy, landscape, p, -, -, held, -, rfl, -⟩ := Nursery.of_performSelection performed
  exact (common.put name (passes.select (before p held) _ _ _ _)).of_populations rfl

/-- The populations of a nursery of which some are still to be selected on: these have the trait
from before. -/
structure IsUnderway (Before After : Organism → Prop) (rest : List String) (n : Nursery) :
    Prop where
  once : rest.Nodup
  common : n.All After
  waiting : ∀ name ∈ rest, ∀ p, n.populations.find? name = some p → ∀ o ∈ p.organisms, Before o

theorem runCycle (passes : Passes Promise Before After) (common : n.All Before)
    {reports : List SelectionReport}
    (performed : n.runCycle supply now = .ok (reports, after, later)) : after.All After := by
  obtain ⟨-, last, -, selected, rfl⟩ := Nursery.of_runCycle performed
  have begun : IsUnderway Before After n.populationNames n :=
    ⟨Directory.nodup_keys String.lt_irrefl _, common.imp passes.kept,
      fun _ _ p held => common.of_find? held⟩
  have finished := Nursery.left_of_selectAll
    (fun rest n _ => IsUnderway Before After rest n) ?_ begun selected
  · exact finished.common.of_populations rfl
  intro n after supply later name rest report underway performed
  obtain ⟨new, once⟩ := List.nodup_cons.mp underway.once
  obtain ⟨first, others⟩ := List.forall_mem_cons.mp underway.waiting
  refine ⟨once, passes.performSelection underway.common first performed, ?_⟩
  -- who waits has another name, and is found as before
  intro other member p held
  obtain ⟨strategy, landscape, q, -, -, -, -, rfl, -⟩ := Nursery.of_performSelection performed
  have unlike : other ≠ name := by
    rintro rfl
    exact new member
  exact others other member p (by rwa [← Directory.find?_insert_of_ne _ _ unlike])

end Passes

end Vivarium
