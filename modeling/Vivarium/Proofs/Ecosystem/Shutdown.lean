import Mathlib.Algebra.GroupWithZero.Nat
import Vivarium.Proofs.Ecosystem.Course
import Vivarium.Proofs.Ecosystem.Transfer
import Vivarium.Proofs.Habitat.Growth

/-!
# Shutdown

A habitat that was shut down stays so.  It turns down every registration, and whatever else is
asked for leaves it as populated as it was or less: cycles and steps of evolution put back whom
they have looked up, removals and harvests take organisms away, and the nursery keeps to its
populations.

One way in is left.  A release does not ask whether the habitat is open, so a habitat that was
shut down still grows by the organisms that are released into it, and by no others.

Main definitions:

* `Exchange.released`: how many organisms were released in an exchange.

Main statements:

* `Ecosystem.Effect.growsBy`: one request to an ecosystem whose habitat is closed;
* `Ecosystem.growth_after_shutdown`: a course behind a shutdown.
-/

namespace Vivarium

/-- How many organisms an answer tells to have been released. -/
def Request.released {α : Type} : Request α → α → Nat
  | .release _ _, organisms => organisms.length
  | .releaseAll _, organisms => organisms.length
  | _, _ => 0

/-- How many organisms were released in an exchange. -/
def Exchange.released (x : Exchange) : Nat :=
  match x.answer with
  | .ok answer => x.request.released answer
  | .error _ => 0

namespace Habitat.GrowsBy

theorem takeAll (h : Habitat) (ids : List OrganismId) :
    GrowsBy 0 h (Ecosystem.takeAll h ids).2 := by
  induction ids generalizing h with
  | nil => exact refl h
  | cons id rest inductionHypothesis =>
      unfold Ecosystem.takeAll Habitat.take?
      cases h.find? id with
      | none => exact inductionHypothesis h
      | some o => exact (erase h id).trans (inductionHypothesis _)

/-- Each organism released is one more resident. -/
theorem releaseEach (h : Habitat) (p : Population) (supply : IdSupply) (ids : List OrganismId) :
    let walked := Ecosystem.releaseEach h p supply ids
    GrowsBy walked.1.length h walked.2.1 := by
  induction ids generalizing h p supply with
  | nil => exact refl h
  | cons id rest inductionHypothesis =>
      unfold Ecosystem.releaseEach
      cases p.take? id with
      | none => exact inductionHypothesis h p supply
      | some pair =>
          let enrolled := h.enroll supply pair.1
          have grown := (enroll h supply pair.1).trans
            (inductionHypothesis enrolled.2.1 pair.2 enrolled.2.2)
          rw [Nat.add_comm] at grown
          exact grown

end Habitat.GrowsBy

namespace Ecosystem

open Habitat

variable {e later first closed : Ecosystem} {now : Instant}

/-- As long as the habitat is closed, nobody comes to it but who is released. -/
theorem Effect.growsBy {α : Type} {request : Request α} {answer : α}
    (shut : e.habitat.isOpen = false) (effect : e.Effect now request answer later) :
    GrowsBy (request.released answer) e.habitat later.habitat := by
  cases effect with
  | register o isOpen => cases shut.symm.trans isOpen
  | execute found => exact GrowsBy.of_insert found _ rfl rfl
  | evolve found => exact GrowsBy.of_insert found _ rfl rfl
  | modify f found => exact GrowsBy.of_insert found _ rfl rfl
  | remove found => exact GrowsBy.erase _ _
  | removeNothing => exact GrowsBy.refl _
  | tick => exact GrowsBy.tick _ now
  | shutdown => exact GrowsBy.shutdown _
  | registerStrategy => exact GrowsBy.refl _
  | registerLandscape => exact GrowsBy.refl _
  | createPopulation => exact GrowsBy.refl _
  | removePopulation => exact GrowsBy.refl _
  | performSelection => exact GrowsBy.refl _
  | runCycle => exact GrowsBy.refl _
  | harvest => exact GrowsBy.takeAll _ _
  | release => exact GrowsBy.releaseEach _ _ _ _
  | releaseAll => exact GrowsBy.releaseEach _ _ _ _

/-- One exchange with an ecosystem whose habitat is closed. -/
theorem Serves.growsBy {x : Exchange} (shut : e.habitat.isOpen = false)
    (served : e.Serves x later) : GrowsBy x.released e.habitat later.habitat := by
  rcases of_served served with ⟨answer, granted, effect⟩ | ⟨fault, failed, -, rfl⟩
  · rw [Exchange.released, granted]
    exact effect.growsBy shut
  · rw [Exchange.released, failed]
    exact GrowsBy.refl _

theorem Course.growsBy {exchanges : List Exchange} (course : Course first exchanges e)
    (shut : first.habitat.isOpen = false) :
    GrowsBy (exchanges.map Exchange.released).sum first.habitat e.habitat := by
  induction course with
  | start => exact GrowsBy.refl _
  | step before served inductionHypothesis =>
      rw [List.map_append, List.sum_append, List.map_singleton, List.sum_singleton]
      exact inductionHypothesis.trans (served.growsBy (inductionHypothesis.closed shut))

/-- A closed habitat turns down a registration. -/
theorem Serves.register_fails {o : Organism} {answer : Except EcosystemFault Organism}
    (shut : e.habitat.isOpen = false)
    (served : e.Serves ⟨Organism, now, .register o, answer⟩ later) :
    answer = .error (.habitat .shuttingDown) := by
  have refused : e.perform now (.register o) = .error (.habitat .shuttingDown) := by
    simp only [perform, Habitat.register, shut]
    rfl
  rcases of_served served with ⟨registered, -, effect⟩ | ⟨fault, failed, turned, -⟩
  · cases refused.symm.trans (perform_of_effect effect)
  · cases refused.symm.trans turned
    exact failed

/-- **After a shutdown** the habitat stays closed, and registrations are turned down.  From one
moment of the course to another the habitat grows by no more organisms than are released between
them.  If none are, nobody is registered who was not registered before. -/
theorem growth_after_shutdown {past since : List Exchange}
    (shut : first.Serves (Exchange.granted now .shutdown ()) closed)
    (before : Course closed past e) (behind : Course e since later) :
    later.habitat.isOpen = false ∧
    (∀ now o answer, (⟨Organism, now, .register o, answer⟩ : Exchange) ∈ since →
      answer = .error (.habitat .shuttingDown)) ∧
    later.habitat.residents.size ≤
      e.habitat.residents.size + (since.map Exchange.released).sum ∧
    ((∀ x ∈ since, x.released = 0) →
      later.habitat.residents.size ≤ e.habitat.residents.size ∧
      ∀ id, later.habitat.contains id = true → e.habitat.contains id = true) := by
  have closing : closed.habitat.isOpen = false := by
    rcases of_served shut with ⟨answer, -, effect⟩ | ⟨fault, impossible, -, -⟩
    · cases perform_of_effect effect
      rfl
    · cases impossible
  have shutBefore := (before.growsBy closing).closed closing
  have grown := behind.growsBy shutBefore
  refine ⟨grown.closed shutBefore, ?_, grown.size, ?_⟩
  · intro now o answer asked
    obtain ⟨earlier, -, between, after, -, started, served⟩ := behind.exists_served asked
    exact served.register_fails ((started.growsBy shutBefore).closed shutBefore)
  · intro nobody
    have none : (since.map Exchange.released).sum = 0 :=
      List.sum_eq_zero_iff_forall_eq_nat.mpr (List.forall_mem_map.mpr nobody)
    have size := grown.size
    rw [none] at size
    exact ⟨size, grown.known none⟩

/-- The pond when the habitat around it has been shut down. -/
def dusk : Ecosystem := { pond with habitat := pond.habitat.shutdown }

theorem shutdown_pond : pond.Serves (Exchange.granted ⟨0, 0⟩ .shutdown ()) dusk :=
  serves_of_effect .shutdown

/-- The newt leaves the pond for a habitat that was shut down. -/
theorem releaseAll_dusk :
    dusk.Serves (Exchange.granted ⟨0, 0⟩ (.releaseAll "pond") (dusk.disbanded "pond" stock).1)
      (dusk.disbanded "pond" stock).2 :=
  serves_of_effect (.releaseAll find?_stock)

/-- At dusk another newt is turned down, and the one in the pond is released. -/
theorem growth_after_shutdown_dusk :
    let night := (dusk.disbanded "pond" stock).2
    ∃ refusal, dusk.Serves ⟨Organism, ⟨0, 0⟩, .register newt, refusal⟩ dusk ∧
      refusal = .error (.habitat .shuttingDown) ∧ night.habitat.isOpen = false ∧
      night.habitat.residents.size ≤ 1 := by
  intro night
  have turned : dusk.Serves ⟨Organism, ⟨0, 0⟩, .register newt,
      (Service.outcome (Service.serve ⟨0, 0⟩ (.register newt)) dusk).1⟩ dusk := by
    show Service.outcome (Service.serve _ _) dusk = _
    rw [Service.serve_outcome]
    rfl
  obtain ⟨isOpen, refusals, size, -⟩ := growth_after_shutdown shutdown_pond Course.start
    ((Course.start.step turned).step releaseAll_dusk)
  have refused := refusals _ newt _ List.mem_cons_self
  refine ⟨_, turned, refused, isOpen, Nat.le_trans size ?_⟩
  simp only [List.nil_append, List.singleton_append, List.map_cons, List.map_nil, List.sum_cons,
    Exchange.released, refused]
  decide +kernel

/-- A habitat that was shut down grows, as the newt is released from the pond. -/
theorem release_after_shutdown :
    ∃ later answer,
      pond.Serves (Exchange.granted ⟨0, 0⟩ .shutdown ()) dusk ∧
      dusk.Serves (Exchange.granted ⟨0, 0⟩ (.releaseAll "pond") answer) later ∧
      Reachable 100 dusk ∧ dusk.habitat.residents.size = 0 ∧
      later.habitat.residents.size = 1 := by
  refine ⟨_, _, shutdown_pond, releaseAll_dusk, ?_, by decide +kernel, by decide +kernel⟩
  have closing : pond.perform ⟨0, 0⟩ .shutdown = .ok ((), dusk) := rfl
  exact reachable_pond.step (by exact not_false) (List.forall_mem_nil _) closing
    (by decide +kernel)

end Ecosystem

end Vivarium
