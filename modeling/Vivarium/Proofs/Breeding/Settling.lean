import Mathlib.Data.List.Forall2
import Vivarium.Breeding.Nursery
import Vivarium.Proofs.Breeding.Supply
import Vivarium.Proofs.Organism.Normal

/-!
# Settling in a place

An organism that comes to a place, be it a habitat or a population, stays what it
is; only if the place holds its id already does it get the next fresh one instead.
When several organisms come one after the other, each of them could in principle
meet an id that one before it brought or was given.  It does not: organisms that
come together have different ids, and a fresh id is one that nobody had.  So what
becomes of each of them depends on what the place held *before any of them came*.

Main definitions:

* `Organism.Enters`: one organism comes to a place;
* `Organism.SettlesAs`, `IsSettlement`: what becomes of organisms that come together;
* `CanSettle`: what has to hold for it.

Main statements:

* `IsSettlement.cons`: one more organism comes first;
* `IsSettlement.origin`: nobody settles who did not come;
* `enrollAll_of_free`, `enrollAll_isSettlement`: organisms that come to a population.
-/

namespace Vivarium

/-- The organism comes to a place that holds some ids: as it is, or with the next
fresh id in exchange for a taken one. -/
def Organism.Enters (held : OrganismId → Prop) (supply : IdSupply) (o settled : Organism)
    (later : IdSupply) : Prop :=
  ¬held o.id ∧ settled = o ∧ later = supply ∨
    held o.id ∧ settled = { o with id := supply.next.1 } ∧ later = supply.next.2

/-- The organism remains as it is, or only changes a taken id for a fresh one. -/
def Organism.SettlesAs (held fresh : OrganismId → Prop) (o settled : Organism) : Prop :=
  ¬held o.id ∧ settled = o ∨
    held o.id ∧ fresh settled.id ∧ settled = { o with id := settled.id }

/-- What becomes of organisms that come together to a place that holds some ids,
while the supply of fresh ids goes from its earlier to its later state. -/
structure IsSettlement (held : OrganismId → Prop) (earlier later : IdSupply)
    (organisms settled : List Organism) : Prop where
  advances : earlier.Advances later
  /-- Fresh are the ids that are given out meanwhile. -/
  each : List.Forall₂ (Organism.SettlesAs held (earlier.Pending later.issued)) organisms settled
  ids : (settled.map (·.id)).Nodup
  /-- Nobody takes the place of one who was there. -/
  apart : ∀ o ∈ settled, ¬held o.id

/-- Some organisms can come together: their ids differ, and neither they nor the
place have an id that is still to be given out. -/
structure CanSettle (held : OrganismId → Prop) (supply : IdSupply) (limit : Nat)
    (organisms : List Organism) : Prop where
  distinct : supply.DistinctUpTo limit
  held : ∀ id, held id → ¬supply.Pending limit id
  unlike : (organisms.map (·.id)).Nodup
  entering : ∀ o ∈ organisms, ¬supply.Pending limit o.id

variable {held held' : OrganismId → Prop} {supply middle later : IdSupply} {limit : Nat}
  {o settled : Organism} {remaining others : List Organism}

/-! ## One organism -/

namespace Organism.Enters

theorem advances (enters : o.Enters held supply settled later) : supply.Advances later := by
  rcases enters with ⟨-, -, rfl⟩ | ⟨-, -, rfl⟩
  · exact IdSupply.Advances.refl _
  · exact supply.advances_next

theorem issued_le (enters : o.Enters held supply settled later) :
    later.issued ≤ supply.issued + 1 := by
  rcases enters with ⟨-, -, rfl⟩ | ⟨-, -, rfl⟩
  · exact Nat.le_succ _
  · exact Nat.le_refl _

/-- Nothing but the id changes. -/
theorem eq_withId (enters : o.Enters held supply settled later) :
    settled = { o with id := settled.id } := by
  rcases enters with ⟨-, rfl, -⟩ | ⟨-, rfl, -⟩ <;> rfl

theorem isNormal (enters : o.Enters held supply settled later) (normal : o.IsNormal) :
    settled.IsNormal := by
  rw [enters.eq_withId]
  exact normal

/-- An organism that has come does not have an id of one who was there. -/
theorem not_held (enters : o.Enters held supply settled later)
    (places : ∀ id, held id → ¬supply.Pending limit id) (room : later.issued ≤ limit) :
    ¬held settled.id := by
  rcases enters with ⟨free, rfl, -⟩ | ⟨-, rfl, rfl⟩
  · exact free
  · intro taken
    exact places _ taken (IdSupply.pending_next (Nat.lt_of_succ_le room))

/-- The id of an organism that has come is not given out again. -/
theorem not_pending (enters : o.Enters held supply settled later)
    (distinct : supply.DistinctUpTo limit) (entering : ¬supply.Pending limit o.id)
    (room : later.issued ≤ limit) : ¬later.Pending limit settled.id := by
  rcases enters with ⟨-, rfl, rfl⟩ | ⟨-, rfl, rfl⟩
  · exact entering
  · exact IdSupply.not_pending_next distinct (Nat.lt_of_succ_le room)

/-- Who comes later does not meet the id of an organism that came before. -/
theorem id_ne (enters : o.Enters held supply settled later) {id : OrganismId}
    (unlike : id ≠ o.id) (entering : ¬supply.Pending limit id) (room : later.issued ≤ limit) :
    id ≠ settled.id := by
  rcases enters with ⟨-, rfl, -⟩ | ⟨-, rfl, rfl⟩
  · exact unlike
  · rintro rfl
    exact entering (IdSupply.pending_next (Nat.lt_of_succ_le room))

/-- An organism that comes settles.  The id that it may be given is one of those that are given
out by any later time. -/
theorem settlesAs (enters : o.Enters held supply settled middle)
    (advances : middle.Advances later) :
    o.SettlesAs held (supply.Pending later.issued) settled := by
  rcases enters with ⟨free, rfl, -⟩ | ⟨taken, rfl, rfl⟩
  · exact Or.inl ⟨free, rfl⟩
  · exact Or.inr ⟨taken, IdSupply.pending_next advances.issued, rfl⟩

end Organism.Enters

/-! ## Several organisms -/

/-- After the first organism has come, the others can. -/
theorem CanSettle.rest (ready : CanSettle held supply limit (o :: remaining))
    (enters : o.Enters held supply settled middle)
    (holds : ∀ id, held' id ↔ held id ∨ id = settled.id) (room : middle.issued ≤ limit) :
    CanSettle held' middle limit remaining := by
  refine ⟨ready.distinct.of_advances enters.advances, ?_, (List.nodup_cons.mp ready.unlike).2, ?_⟩
  · intro id taken
    rcases (holds id).mp taken with before | rfl
    · exact IdSupply.not_pending_of_advances enters.advances (ready.held id before)
    · exact enters.not_pending ready.distinct (ready.entering o List.mem_cons_self) room
  · intro x member
    exact IdSupply.not_pending_of_advances enters.advances
      (ready.entering x (List.mem_cons_of_mem _ member))

namespace IsSettlement

theorem nil (held : OrganismId → Prop) (supply : IdSupply) :
    IsSettlement held supply supply [] [] :=
  ⟨IdSupply.Advances.refl supply, List.Forall₂.nil, List.nodup_nil, fun _ member => nomatch member⟩

/-- One organism comes first and the others after it.  What the first one brings or
is given is no obstacle to any of the others. -/
theorem cons (ready : CanSettle held supply limit (o :: remaining))
    (enters : o.Enters held supply settled middle)
    (holds : ∀ id, held' id ↔ held id ∨ id = settled.id)
    (settlement : IsSettlement held' middle later remaining others) (room : later.issued ≤ limit) :
    IsSettlement held supply later (o :: remaining) (settled :: others) := by
  have bounded : middle.issued ≤ limit := Nat.le_trans settlement.advances.issued room
  have first := enters.settlesAs settlement.advances
  -- the id of the first makes no difference to the others, as none of them brings it
  have different : ∀ x ∈ remaining, x.id ≠ settled.id := by
    intro x member
    refine enters.id_ne ?_ (ready.entering x (List.mem_cons_of_mem _ member)) bounded
    intro same
    exact (List.nodup_cons.mp ready.unlike).1 (List.mem_map.mpr ⟨x, member, same⟩)
  have each : List.Forall₂ (Organism.SettlesAs held (supply.Pending later.issued))
      remaining others := by
    refine List.Forall₂.imp ?_ ((List.forall₂_and_left _ _).mpr ⟨different, settlement.each⟩)
    rintro x y ⟨different, settles⟩
    have unchanged : held' x.id ↔ held x.id :=
      (holds x.id).trans ⟨fun either => either.resolve_right different, Or.inl⟩
    rcases settles with ⟨free, same⟩ | ⟨taken, ⟨n, issued, below, given⟩, same⟩
    · exact Or.inl ⟨fun before => free (unchanged.mpr before), same⟩
    · refine Or.inr ⟨unchanged.mp taken, ⟨n, ?_, below, ?_⟩, same⟩
      · exact Nat.le_trans enters.advances.issued issued
      · rw [← given, enters.advances.ids]
  refine ⟨enters.advances.trans settlement.advances, List.Forall₂.cons first each, ?_, ?_⟩
  · refine List.nodup_cons.mpr ⟨?_, settlement.ids⟩
    intro member
    obtain ⟨x, among, same⟩ := List.mem_map.mp member
    exact settlement.apart x among ((holds x.id).mpr (Or.inr same))
  · refine List.forall_mem_cons.mpr ⟨enters.not_held ready.held bounded, ?_⟩
    intro x member taken
    exact settlement.apart x member ((holds x.id).mpr (Or.inl taken))

/-- Whoever has settled was one of those that came. -/
theorem origin {organisms arrived : List Organism}
    (settlement : IsSettlement held supply later organisms arrived) (member : settled ∈ arrived) :
    ∃ o ∈ organisms, o.SettlesAs held (supply.Pending later.issued) settled := by
  have each := settlement.each
  clear settlement
  induction each with
  | nil => cases member
  | cons first _ inductionHypothesis =>
      rcases List.mem_cons.mp member with rfl | among
      · exact ⟨_, List.mem_cons_self, first⟩
      · obtain ⟨o, came, settles⟩ := inductionHypothesis among
        exact ⟨o, List.mem_cons_of_mem _ came, settles⟩

/-- The id of an organism that has settled is not given out again. -/
theorem not_pending {organisms arrived : List Organism}
    (settlement : IsSettlement held supply later organisms arrived)
    (ready : CanSettle held supply limit organisms) (room : later.issued ≤ limit)
    (member : settled ∈ arrived) : ¬later.Pending limit settled.id := by
  obtain ⟨o, came, ⟨-, rfl⟩ | ⟨-, ⟨m, -, below, given⟩, -⟩⟩ := settlement.origin member
  · exact IdSupply.not_pending_of_advances settlement.advances (ready.entering _ came)
  · rintro ⟨n, issued, within, again⟩
    rw [settlement.advances.ids, ← given] at again
    have same : n = m :=
      ready.distinct n m within (Nat.lt_of_lt_of_le below room) again
    omega

end IsSettlement

/-! ## Organisms that come to a population -/

namespace Population

/-- An organism is enrolled behind the others, normalized. -/
theorem enroll_enters (p : Population) (supply : IdSupply) (o : Organism) :
    ∃ settled later, o.normalize.Enters (· ∈ p.ids) supply settled later ∧
      p.enroll supply o =
        (settled.id, { p with organisms := p.organisms ++ [settled] }, later) := by
  by_cases taken : o.id ∈ p.ids
  · have contained : p.contains o.id = true := List.contains_iff_mem.mpr taken
    refine ⟨_, _, Or.inr ⟨taken, rfl, rfl⟩, ?_⟩
    simp only [enroll, contained, if_true]
    rfl
  · have free : p.contains o.id = false := by
      rw [← Bool.not_eq_true]
      exact fun contained => taken (List.contains_iff_mem.mp contained)
    refine ⟨_, _, Or.inl ⟨taken, rfl, rfl⟩, ?_⟩
    simp only [enroll, free, Bool.false_eq_true, if_false]
    rfl

theorem mem_ids_append (p : Population) (settled : Organism) (id : OrganismId) :
    id ∈ ({ p with organisms := p.organisms ++ [settled] } : Population).ids ↔
      id ∈ p.ids ∨ id = settled.id := by
  simp [ids]

theorem issued_enroll_le (p : Population) (supply : IdSupply) (o : Organism) :
    (p.enroll supply o).2.2.issued ≤ supply.issued + 1 := by
  obtain ⟨settled, later, enters, enrolled⟩ := p.enroll_enters supply o
  rw [enrolled]
  exact enters.issued_le

end Population

theorem enrollAll_advances (p : Population) (supply : IdSupply) (organisms : List Organism) :
    supply.Advances (Nursery.enrollAll p supply organisms).2.2 := by
  induction organisms generalizing p supply with
  | nil => exact IdSupply.Advances.refl supply
  | cons o rest inductionHypothesis =>
      obtain ⟨settled, middle, enters, enrolled⟩ := p.enroll_enters supply o
      simp only [Nursery.enrollAll, enrolled]
      exact enters.advances.trans (inductionHypothesis _ _)

/-- Each organism takes a fresh id at most. -/
theorem issued_enrollAll_le (p : Population) (supply : IdSupply) (organisms : List Organism) :
    (Nursery.enrollAll p supply organisms).2.2.issued ≤ supply.issued + organisms.length := by
  induction organisms generalizing p supply with
  | nil => exact Nat.le_refl _
  | cons o rest inductionHypothesis =>
      let enrolled := p.enroll supply o
      calc (Nursery.enrollAll p supply (o :: rest)).2.2.issued
        _ ≤ enrolled.2.2.issued + rest.length := inductionHypothesis enrolled.2.1 enrolled.2.2
        _ ≤ supply.issued + 1 + rest.length :=
            Nat.add_le_add_right (p.issued_enroll_le supply o) _
        _ = supply.issued + (o :: rest).length := by rw [List.length_cons]; omega

/-- Organisms with different ids of which none is taken stay who they are, and draw on no fresh
ids. -/
theorem enrollAll_of_free {p : Population} {organisms : List Organism}
    (unlike : (organisms.map (·.id)).Nodup) (free : ∀ o ∈ organisms, o.id ∉ p.ids) :
    Nursery.enrollAll p supply organisms =
      (organisms.map (·.id),
        { p with organisms := p.organisms ++ organisms.map (·.normalize) }, supply) := by
  induction organisms generalizing p with
  | nil => simp only [Nursery.enrollAll, List.map_nil, List.append_nil]
  | cons o rest inductionHypothesis =>
      obtain ⟨apart, unlike⟩ := List.nodup_cons.mp unlike
      obtain ⟨here, others⟩ := List.forall_mem_cons.mp free
      obtain ⟨settled, middle, enters, enrolled⟩ := p.enroll_enters supply o
      rcases enters with ⟨-, rfl, rfl⟩ | ⟨taken, -, -⟩
      · have stillFree : ∀ x ∈ rest, x.id ∉
            ({ p with organisms := p.organisms ++ [o.normalize] } : Population).ids := by
          intro x member taken
          rcases (p.mem_ids_append o.normalize x.id).mp taken with before | same
          · exact others x member before
          · exact apart (List.mem_map.mpr ⟨x, member, same⟩)
        simp only [Nursery.enrollAll, enrolled, inductionHypothesis unlike stillFree,
          List.map_cons, List.append_assoc, List.cons_append, List.nil_append,
          Organism.normalize_id]
      · exact absurd taken here

/-- Normal organisms that come together to a population settle behind those that
are there, and are answered by the ids they have in the end. -/
theorem enrollAll_isSettlement {p : Population} {organisms : List Organism}
    (normal : ∀ o ∈ organisms, o.IsNormal) (ready : CanSettle (· ∈ p.ids) supply limit organisms)
    (room : (Nursery.enrollAll p supply organisms).2.2.issued ≤ limit) :
    ∃ settled later, Nursery.enrollAll p supply organisms =
        (settled.map (·.id), { p with organisms := p.organisms ++ settled }, later) ∧
      IsSettlement (· ∈ p.ids) supply later organisms settled := by
  induction organisms generalizing p supply with
  | nil =>
      refine ⟨[], supply, ?_, IsSettlement.nil _ supply⟩
      simp only [Nursery.enrollAll, List.map_nil, List.append_nil]
  | cons o rest inductionHypothesis =>
      obtain ⟨settled, middle, enters, enrolled⟩ := p.enroll_enters supply o
      rw [Organism.normalize_eq_self.mpr (normal o List.mem_cons_self)] at enters
      simp only [Nursery.enrollAll, enrolled] at room ⊢
      have bounded := Nat.le_trans (enrollAll_advances _ middle rest).issued room
      have holds := p.mem_ids_append settled
      obtain ⟨others, later, rest_eq, settlement⟩ := inductionHypothesis
        (fun x member => normal x (List.mem_cons_of_mem _ member))
        (ready.rest enters holds bounded) room
      rw [rest_eq] at room ⊢
      refine ⟨settled :: others, later, ?_, settlement.cons ready enters holds room⟩
      simp only [List.map_cons, List.append_assoc, List.cons_append, List.nil_append]

end Vivarium
