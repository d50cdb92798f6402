import Vivarium.Proofs.Breeding.Heredity
import Vivarium.Proofs.Ecosystem.Course

/-!
# Heredity in an ecosystem

Wherever an organism of an ecosystem is, in the habitat or in a population, it was admitted
there, bred there, or has lived there through its cycles.  So a hereditary trait is common
to the whole ecosystem after any course of requests, as long as those who come hold the
promise of it and the functions from outside that are let at an organism keep it.  A trait that
passes on under a condition is so if the condition is met after each request.

Main definitions:

* `Ecosystem.Houses`: an organism lives in the habitat or in a population;
* `Habitat.All`, `Ecosystem.All`: all organisms have a trait.

Main statements:

* `Habitat.All.takeAll`, `Passes.releaseEach`: the walks of the transfers;
* `Passes.effect`: one request;
* `Ecosystem.Course.passes`, `Ecosystem.Course.hereditary`: a course of requests.
-/

namespace Vivarium

variable {Promise Before After Trait : Organism → Prop} {h : Habitat} {now : Instant}

/-! ## Habitats -/

/-- All organisms of the habitat have the trait. -/
def Habitat.All (h : Habitat) (Trait : Organism → Prop) : Prop :=
  ∀ r ∈ h.residents.values, Trait r.organism

namespace Habitat.All

theorem founded (config : HabitatConfig) (rng : Rng) : (Habitat.founded config rng).All Trait := by
  intro r member
  cases member

theorem imp (common : h.All Before) (kept : ∀ {o}, Before o → After o) : h.All After :=
  fun r member => kept (common r member)

/-- Only the residents of a habitat count. -/
theorem of_residents (common : h.All Trait) {after : Habitat}
    (same : after.residents = h.residents) : after.All Trait := by
  intro r member
  rw [same] at member
  exact common r member

theorem put (common : h.All Trait) (id : OrganismId) {r : Resident} (new : Trait r.organism) :
    (h.put id r).All Trait := by
  intro other member
  rcases Directory.mem_values_insert member with rfl | before
  · exact new
  · exact common other before

theorem erase (common : h.All Trait) (id : OrganismId) :
    ({ h with residents := h.residents.erase id } : Habitat).All Trait := by
  intro r member
  exact common r (Directory.mem_values_erase member)

theorem of_find? (common : h.All Trait) {id : OrganismId} {r : Resident}
    (found : h.residents.find? id = some r) : Trait r.organism :=
  common r (Directory.mem_values_of_find? found)

/-- Whoever is taken from a habitat has the trait, and so has whoever is left. -/
theorem takeAll (common : h.All Trait) (ids : List OrganismId) :
    (∀ o ∈ (Ecosystem.takeAll h ids).1, Trait o) ∧ (Ecosystem.takeAll h ids).2.All Trait := by
  induction ids generalizing h with
  | nil => exact ⟨List.forall_mem_nil _, common⟩
  | cons id rest inductionHypothesis =>
      unfold Ecosystem.takeAll Habitat.take?
      cases found : h.find? id with
      | none => exact inductionHypothesis common
      | some o =>
          obtain ⟨r, stored, rfl⟩ := Option.map_eq_some_iff.mp found
          obtain ⟨taken, left⟩ := inductionHypothesis (common.erase id)
          exact ⟨List.forall_mem_cons.mpr ⟨common.of_find? stored, taken⟩, left⟩

end Habitat.All

namespace Passes

theorem enrollResident (passes : Passes Promise Before After) (common : h.All After)
    (supply : IdSupply) {o : Organism} (promised : Promise o) :
    (h.enroll supply o).2.1.All After := by
  obtain ⟨settled, later, enters, enrolled⟩ := h.enroll_enters supply o
  rw [enrolled]
  exact common.put settled.id (passes.enters promised enters)

/-- A cycle of the whole habitat is a cycle of each resident in its turn. -/
theorem tick (passes : Passes Promise Before After) (common : h.All Before) :
    (h.tick now).2.All After := by
  intro r member
  obtain ⟨before, among, id, reached, rfl⟩ := Directory.mem_values_traverse member
  exact passes.cycled (common before among)
    (Draw.yields_run (before.cycle h.config now) reached.1)

/-- Whoever is released has the trait in the habitat, and whoever is left in the population still
has the one from before. -/
theorem releaseEach (passes : Passes Promise Before After) (common : h.All After)
    {p : Population} (members : ∀ o ∈ p.organisms, Before o) (supply : IdSupply)
    (ids : List OrganismId) :
    (Ecosystem.releaseEach h p supply ids).2.1.All After ∧
      ∀ o ∈ (Ecosystem.releaseEach h p supply ids).2.2.1.organisms, Before o := by
  induction ids generalizing h p supply with
  | nil => exact ⟨common, members⟩
  | cons id rest inductionHypothesis =>
      unfold Ecosystem.releaseEach Population.take?
      cases found : p.find? id with
      | none => exact inductionHypothesis common members supply
      | some o =>
          have promised : Promise o :=
            passes.promised (members o (Population.mem_of_find? found))
          refine inductionHypothesis (passes.enrollResident common supply promised) ?_ _
          intro x member
          exact members x (List.mem_of_mem_eraseP member)

end Passes

/-! ## Ecosystems -/

/-- The organism lives in the habitat of the ecosystem or in one of its populations. -/
def Ecosystem.Houses (e : Ecosystem) (o : Organism) : Prop :=
  o ∈ e.habitat.organisms ∨ ∃ p ∈ e.nursery.populations.values, o ∈ p.organisms

/-- All organisms of the ecosystem have the trait. -/
structure Ecosystem.All (e : Ecosystem) (Trait : Organism → Prop) : Prop where
  habitat : e.habitat.All Trait
  nursery : e.nursery.All Trait

namespace Passes

variable {e later : Ecosystem}

theorem harvested (passes : Passes Promise Before After) (common : e.All Before)
    (ids : List OrganismId) (population : String) (strategy : Strategy) :
    (e.harvested ids population strategy now).2.All After := by
  obtain ⟨taken, left⟩ := common.habitat.takeAll ids
  have promised : ∀ o ∈ (Ecosystem.takeAll e.habitat ids).1, Promise o :=
    fun o member => passes.promised (taken o member)
  have target : ∀ o ∈ (e.target population strategy now).organisms, After o := by
    unfold Ecosystem.target
    cases held : e.nursery.populations.find? population with
    | none => exact List.forall_mem_nil _
    | some p => exact (common.nursery.imp passes.kept).of_find? held
  have others : e.nursery.All After := common.nursery.imp passes.kept
  refine ⟨left.imp passes.kept, Nursery.All.put (others.of_populations rfl) population ?_⟩
  exact passes.fill (passes.enrollAll target promised) e.nursery promised _

theorem released (passes : Passes Promise Before After) (common : e.All Before)
    {population : String} {source : Population}
    (known : e.nursery.populations.find? population = some source) (ids : List OrganismId) :
    (e.released population source ids).2.All After := by
  obtain ⟨arrived, left⟩ := passes.releaseEach (common.habitat.imp passes.kept)
    (common.nursery.of_find? known) e.supply ids
  have others : e.nursery.All After := common.nursery.imp passes.kept
  exact ⟨arrived, others.put population fun o member => passes.kept (left o member)⟩

/-- A trait passes on through a request, if it does so through a function from outside. -/
theorem effect (passes : Passes Promise Before After) {α : Type} {request : Request α}
    {answer : α} (common : e.All Before) (faithful : request.Leads Before After)
    (promised : ∀ o ∈ request.entering, Promise o) (effect : e.Effect now request answer later) :
    later.All After := by
  have habitat : e.habitat.All After := common.habitat.imp passes.kept
  have nursery : e.nursery.All After := common.nursery.imp passes.kept
  cases effect with
  | register o =>
      have entering : Promise o := promised o (List.mem_singleton_self o)
      exact ⟨passes.enrollResident habitat e.supply entering, nursery⟩
  | execute found drawn =>
      have cycled := passes.cycled (common.habitat.of_find? found)
        ⟨e.habitat.rng, congrArg Prod.fst drawn⟩
      exact ⟨habitat.put _ cycled, nursery⟩
  | evolve found drawn =>
      have evolved := passes.evolved (common.habitat.of_find? found)
        ⟨e.habitat.rng, congrArg Prod.fst drawn⟩
      exact ⟨habitat.put _ evolved, nursery⟩
  | @modify id r f found =>
      exact ⟨habitat.put id (faithful r.organism (common.habitat.of_find? found)), nursery⟩
  | remove => exact ⟨habitat.erase _, nursery⟩
  | removeNothing => exact ⟨habitat, nursery⟩
  | tick => exact ⟨passes.tick common.habitat, nursery⟩
  | shutdown => exact ⟨habitat.of_residents rfl, nursery⟩
  | registerStrategy => exact ⟨habitat, nursery.of_populations rfl⟩
  | registerLandscape => exact ⟨habitat, nursery.of_populations rfl⟩
  | createPopulation created =>
      exact ⟨habitat, passes.createPopulation common.nursery promised created⟩
  | removePopulation => exact ⟨habitat, nursery.erase _⟩
  | performSelection performed =>
      exact ⟨habitat, passes.performSelection nursery
        (fun _ held => common.nursery.of_find? held) performed⟩
  | runCycle performed => exact ⟨habitat, passes.runCycle common.nursery performed⟩
  | harvest => exact passes.harvested common _ _ _
  | release known => exact passes.released common known _
  | releaseAll known =>
      obtain ⟨arrived, left⟩ := passes.released common known _
      exact ⟨arrived, left.erase _⟩

end Passes

namespace Ecosystem

variable {e : Ecosystem}

theorem Houses.of_find? {id : OrganismId} {o : Organism}
    (registered : e.habitat.find? id = some o) : e.Houses o := by
  obtain ⟨r, found, rfl⟩ := Option.map_eq_some_iff.mp registered
  exact Or.inl (List.mem_map_of_mem (Directory.mem_values_of_find? found))

theorem All.of_houses (common : e.All Trait) {o : Organism} (housed : e.Houses o) : Trait o := by
  rcases housed with resident | ⟨p, held, member⟩
  · obtain ⟨r, among, rfl⟩ := List.mem_map.mp resident
    exact common.habitat r among
  · exact common.nursery p held o member

/-- A new ecosystem has no organism without the trait. -/
theorem All.founded (c : Config) (habitatSeed nurserySeed : Nat) (supply : IdSupply) :
    (Ecosystem.founded c habitatSeed nurserySeed supply).All Trait :=
  ⟨Habitat.All.founded _ _, Nursery.All.founded _ _⟩

theorem All.imp (common : e.All Before) (kept : ∀ {o}, Before o → After o) : e.All After :=
  ⟨common.habitat.imp kept, common.nursery.imp kept⟩

/-- A trait that passes on is common after a course in which all who came held the promise, if
after each request the trait that it has led to is the one from before again. -/
theorem Course.passes {first : Ecosystem} {exchanges : List Exchange}
    (course : Course first exchanges e) (passes : Passes Promise Before After)
    (begins : first.All Before) (faithful : ∀ x ∈ exchanges, x.request.Leads Before After)
    (promised : ∀ x ∈ exchanges, ∀ o ∈ x.entering, Promise o)
    (restored : ∀ past rest between, exchanges = past ++ rest → Course first past between →
      between.All After → between.All Before) : e.All Before := by
  induction course with
  | start => exact begins
  | @step exchanges e later x before served inductionHypothesis =>
      obtain ⟨faithfulBefore, faithfulLast⟩ := List.forall_mem_append.mp faithful
      obtain ⟨promisedBefore, promisedLast⟩ := List.forall_mem_append.mp promised
      have common := inductionHypothesis faithfulBefore promisedBefore fun past rest between
          split => restored past (rest ++ [x]) between (by rw [split, List.append_assoc])
      refine restored (exchanges ++ [x]) [] later (List.append_nil _).symm
        (before.step served) ?_
      rcases of_served served with ⟨answer, granted, effect⟩ | ⟨fault, -, -, rfl⟩
      · have entering := promisedLast x (List.mem_singleton_self x)
        rw [Exchange.entering, granted] at entering
        exact passes.effect common (faithfulLast x (List.mem_singleton_self x)) entering effect
      · exact common.imp passes.kept

/-- A hereditary trait is common after a course in which all who came held the promise. -/
theorem Course.hereditary {first : Ecosystem} {exchanges : List Exchange}
    (course : Course first exchanges e) (heritable : IsHereditary Promise Trait)
    (begins : first.All Trait) (faithful : ∀ x ∈ exchanges, x.request.Leads Trait Trait)
    (promised : ∀ x ∈ exchanges, ∀ o ∈ x.entering, Promise o) : e.All Trait :=
  course.passes heritable.passes begins faithful promised fun _ _ _ _ _ common => common

end Ecosystem

end Vivarium
