import Vivarium.Proofs.Ecosystem.CycleLog
import Vivarium.Proofs.Ecosystem.Identity

/-!
# Inertness of rest

All organisms of a habitat draw from one random stream, in ascending order of their ids, so
whatever is drawn for one of them is felt by all that come after it.  Nothing is drawn for an
organism that rests.  A tick therefore cannot tell whether those who rest are there: if some
of them were removed before it, it takes the others to where they would have come anyway.

The two walks are compared from the same place of the stream on, along the residents of the
larger habitat.  One who has been removed is a step of the one walk and none of the other.

Main definitions:

* `Habitat.Rests`: an organism that rests in its next cycle;
* `TickReport.exertion`: what a report tells of those who do not rest;
* `Request.removes`, `Request.RemovesOnly`: requests that remove organisms;
* `Ecosystem.Lacks`: an ecosystem without some of its residents.

Main statements:

* `Habitat.traverseEntries_visit_filter`: the two walks;
* `Ecosystem.Course.lacks`: what is left after removals;
* `Ecosystem.resting_are_inert`: both together.
-/

namespace Vivarium

/-! ## Walks -/

namespace TickReport

/-- What a report tells of those who do not rest: how many have ticked, evolved and failed. -/
def exertion (report : TickReport) : Nat × Nat × Nat :=
  (report.ticked, report.evolved, report.failed)

theorem exertion_add_of_rests (report : TickReport) {outcome : CycleOutcome}
    (rests : outcome.rests = true) : (report.add outcome).exertion = report.exertion := by
  cases outcome with
  | ticked => cases rests
  | failed => cases rests
  | resting => rfl
  | resumed => rfl

theorem exertion_add {report other : TickReport} (same : report.exertion = other.exertion)
    (outcome : CycleOutcome) : (report.add outcome).exertion = (other.add outcome).exertion := by
  simp only [exertion, Prod.mk.injEq] at same ⊢
  cases outcome <;> simp [add, same]

end TickReport

namespace Habitat

variable {config : HabitatConfig} {now : Instant}

/-- Nothing but the reported rest tells the one state of a walk from the other. -/
def Alike (s t : Rng × TickReport) : Prop := s.1 = t.1 ∧ s.2.exertion = t.2.exertion

theorem visit_alike {s t : Rng × TickReport} (alike : Alike s t) (id : OrganismId)
    (r : Resident) :
    (visit config now id r s).1 = (visit config now id r t).1 ∧
      Alike (visit config now id r s).2 (visit config now id r t).2 := by
  obtain ⟨rng, report⟩ := s
  obtain ⟨_, other⟩ := t
  obtain ⟨rfl, same⟩ := alike
  exact ⟨rfl, rfl, TickReport.exertion_add same _⟩

/-- One who rests draws nothing, and is not counted with those who do not. -/
theorem alike_visit_of_needsRest {r : Resident} (rests : r.needsRest config = true)
    {s t : Rng × TickReport} (alike : Alike s t) (id : OrganismId) :
    Alike s (visit config now id r t).2 := by
  have rested := (CycleRecord.isRun_take config now id r t.1).rested rests
  exact ⟨alike.1.trans rested.stream.symm,
    alike.2.trans (t.2.exertion_add_of_rests rested.outcome).symm⟩

/-- The organism of an id is marked as resting, or has no more energy than the floor. -/
def Rests (h : Habitat) (id : OrganismId) : Prop :=
  ∃ r, h.residents.find? id = some r ∧
    (r.resting = true ∨ r.organism.state.energy ≤ h.config.energyFloor)

/-- A tick of the habitat without some who rest takes the others to where they would have come
with them. -/
theorem tick_without {h : Habitat} {gone : List OrganismId}
    {residents : Directory OrganismId Resident}
    (left : residents.entries = h.residents.entries.filter fun entry => entry.1 ∉ gone)
    (rest : ∀ id ∈ gone, h.Rests id) (now : Instant) :
    let whole := h.tick now
    let others := ({ h with residents := residents } : Habitat).tick now
    others.2.residents.entries =
        whole.2.residents.entries.filter (fun entry => entry.1 ∉ gone) ∧
      others.2.rng = whole.2.rng ∧ others.1.exertion = whole.1.exertion := by
  have needRest : ∀ entry ∈ h.residents.entries, decide (entry.1 ∉ gone) = false →
      entry.2.needsRest h.config = true := by
    rintro ⟨id, r⟩ listed absent
    obtain ⟨same, found, needs⟩ := rest id (not_not.mp (of_decide_eq_false absent))
    obtain rfl : r = same := Option.some.inj
      ((Directory.find?_eq_some_of_mem Uuid.lt_irrefl listed).symm.trans found)
    exact CycleRecord.needsRest_iff.mpr needs
  intro whole others
  obtain ⟨entries, stream, exertion⟩ := Directory.traverseEntries_filter
    (fun id => decide (id ∉ gone)) (f := visit h.config now)
    (fun entry _ _ _ _ alike => visit_alike alike entry.1 entry.2)
    (fun entry listed absent _ _ alike =>
      alike_visit_of_needsRest (needRest entry listed absent) alike entry.1)
    (⟨rfl, rfl⟩ : Alike (h.rng, .empty) (h.rng, .empty))
  rw [← left] at entries stream exertion
  exact ⟨entries, stream, exertion⟩

end Habitat

/-! ## Removals -/

namespace Request

variable {α : Type}

/-- The ids that a request removes organisms of. -/
def removes : Request α → List OrganismId
  | remove id => [id]
  | _ => []

/-- The request removes the organism of such an id. -/
def RemovesOnly (Fits : OrganismId → Prop) : Request α → Prop
  | remove id => Fits id
  | _ => False

end Request

namespace Ecosystem

/-- An ecosystem without the residents of some ids. -/
structure Lacks (gone : List OrganismId) (e fewer : Ecosystem) : Prop where
  residents : fewer.habitat.residents.entries =
    e.habitat.residents.entries.filter fun entry => entry.1 ∉ gone
  others : fewer = { e with habitat := { e.habitat with residents := fewer.habitat.residents } }

variable {e fewer : Ecosystem} {gone : List OrganismId} {exchanges : List Exchange}

namespace Lacks

theorem refl (e : Ecosystem) : e.Lacks [] e where
  residents := by simp
  others := rfl

/-- One more is removed. -/
theorem erase (lacks : e.Lacks gone fewer) (id : OrganismId) :
    e.Lacks (gone ++ [id])
      { fewer with
        habitat := { fewer.habitat with residents := fewer.habitat.residents.erase id } } where
  residents := by
    show fewer.habitat.residents.entries.filter _ = _
    rw [lacks.residents, List.filter_filter]
    refine List.filter_congr fun entry _ => ?_
    simp [and_comm]
  others := by rw [lacks.others]

end Lacks

section

variable {α : Type} {now : Instant} {request : Request α} {Fits : OrganismId → Prop}

theorem Effect.lacks {middle later : Ecosystem} {answer : α}
    (effect : middle.Effect now request answer later) (removal : request.RemovesOnly Fits)
    (lacks : e.Lacks gone middle) : e.Lacks (gone ++ request.removes) later := by
  cases effect with
  | @remove id => exact lacks.erase id
  | @removeNothing id missing =>
      have erased := lacks.erase id
      rwa [Directory.erase_of_find?_eq_none missing] at erased
  | _ => exact absurd removal not_false

/-- A removal does not fail, whoever it is of. -/
theorem perform_ne_error_of_removesOnly (removal : request.RemovesOnly Fits)
    (fault : EcosystemFault) : e.perform now request ≠ .error fault := by
  cases request with
  | remove id =>
      intro failed
      simp only [perform] at failed
      split at failed
      · cases failed
      · cases failed
  | _ => exact absurd removal not_false

theorem fits_of_mem_removes (removal : request.RemovesOnly Fits) :
    ∀ id ∈ request.removes, Fits id := by
  cases request with
  | remove id => exact List.forall_mem_singleton.mpr removal
  | _ => exact absurd removal not_false

end

/-- What is left of an ecosystem after removals. -/
theorem Course.lacks {Fits : OrganismId → Prop} (course : Course e exchanges fewer)
    (removals : ∀ x ∈ exchanges, x.request.RemovesOnly Fits) :
    e.Lacks (exchanges.flatMap fun x => x.request.removes) fewer := by
  induction course with
  | start => exact .refl e
  | step before served inductionHypothesis =>
      obtain ⟨earlier, last⟩ := List.forall_mem_append.mp removals
      have removal := List.forall_mem_singleton.mp last
      rw [List.flatMap_append, List.flatMap_singleton]
      rcases of_served served with ⟨answer, -, effect⟩ | ⟨fault, -, failed, -⟩
      · exact effect.lacks removal (inductionHypothesis earlier)
      · exact absurd failed (perform_ne_error_of_removesOnly removal fault)

/-- **Who rests is inert for the others.**  Let some organisms be removed from an ecosystem, in
whatever state it is, all of which are marked as resting or have no more energy than the floor.
A tick then takes every other organism, with its mark, to where it would have come if they were
still there.  It leaves the random stream at the same place, and reports as many organisms that
have ticked, evolved and failed. -/
theorem resting_are_inert (course : Course e exchanges fewer)
    (removals : ∀ x ∈ exchanges, x.request.RemovesOnly e.habitat.Rests) (now : Instant) :
    let removed := exchanges.flatMap fun x => x.request.removes
    let whole := e.habitat.tick now
    let others := fewer.habitat.tick now
    (∀ id, fewer.habitat.residents.find? id =
      if id ∈ removed then none else e.habitat.residents.find? id) ∧
    (∀ id, others.2.residents.find? id =
      if id ∈ removed then none else whole.2.residents.find? id) ∧
    others.2.rng = whole.2.rng ∧
    others.1.ticked = whole.1.ticked ∧ others.1.evolved = whole.1.evolved ∧
      others.1.failed = whole.1.failed := by
  intro removed whole others
  have lacks := course.lacks removals
  have rest : ∀ id ∈ removed, e.habitat.Rests id := by
    intro id listed
    obtain ⟨x, asked, removes⟩ := List.mem_flatMap.mp listed
    exact fits_of_mem_removes (removals x asked) id removes
  obtain ⟨entries, stream, exertion⟩ := Habitat.tick_without lacks.residents rest now
  have same : fewer.habitat = { e.habitat with residents := fewer.habitat.residents } :=
    congrArg Ecosystem.habitat lacks.others
  rw [← same] at entries stream exertion
  simp only [TickReport.exertion, Prod.mk.injEq] at exertion
  exact ⟨Directory.find?_of_filter lacks.residents, Directory.find?_of_filter entries, stream,
    exertion⟩

/-- A weary newt is removed from a den in front of another one, which ticks as if it were still
there. -/
theorem resting_are_inert_den :
    let glade := (wasteland.registered newt).2
    let den := (glade.registered weary).2
    let sleeper := (glade.registered weary).1.id
    ∃ fewer, Course den [Exchange.granted ⟨0, 0⟩ (.remove sleeper) true] fewer ∧
      sleeper < newt.id ∧ (fewer.habitat.tick ⟨1, 0⟩).2.ids = [newt.id] ∧
      (fewer.habitat.tick ⟨1, 0⟩).2.residents.find? newt.id =
        (den.habitat.tick ⟨1, 0⟩).2.residents.find? newt.id ∧
      (fewer.habitat.tick ⟨1, 0⟩).2.rng = (den.habitat.tick ⟨1, 0⟩).2.rng ∧
      (den.habitat.tick ⟨1, 0⟩).1.ticked = 1 := by
  intro glade den sleeper
  have resident : den.habitat.residents.find? sleeper =
      some ⟨(glade.registered weary).1, false⟩ := by
    decide +kernel
  have served : den.Serves (Exchange.granted ⟨0, 0⟩ (.remove sleeper) true) _ :=
    serves_of_effect (Effect.remove resident)
  have removed := Course.start.step served
  have rests : den.habitat.Rests sleeper := ⟨_, resident, Or.inr (by decide +kernel)⟩
  obtain ⟨-, others, stream, ticked, -, -⟩ :=
    resting_are_inert removed (List.forall_mem_singleton.mpr rests) ⟨1, 0⟩
  have stays := others newt.id
  rw [if_neg (by decide +kernel)] at stays
  refine ⟨_, removed, by decide +kernel, by decide +kernel, stays, stream, ?_⟩
  rw [← ticked]
  decide +kernel

end Ecosystem

end Vivarium
