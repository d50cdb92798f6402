import Vivarium.Proofs.Breeding.Filling
import Vivarium.Proofs.Breeding.Selection

/-!
# Where ids come from

Whatever happens to a population, an id that is found in it afterwards was there before, was
brought by an organism that came, or was drawn from the supply meanwhile.  Nothing is asked of
the organisms here, so that the same holds of some that no longer have their ids.

Main statements:

* `Organism.Enters.id_cases`: one organism that comes;
* `mem_ids_enrollAll`, `mem_ids_fill`, `mem_ids_select`: operations on a population.
-/

namespace Vivarium

variable {supply later : IdSupply} {p : Population} {id : OrganismId}

/-- Who comes keeps an id that is free, or is given a fresh one. -/
theorem Organism.Enters.id_cases {held : OrganismId → Prop} {o settled : Organism}
    (enters : o.Enters held supply settled later) :
    settled.id = o.id ∧ ¬held o.id ∨ supply.Pending later.issued settled.id := by
  rcases enters with ⟨free, rfl, -⟩ | ⟨-, rfl, rfl⟩
  · exact Or.inl ⟨rfl, free⟩
  · exact Or.inr (IdSupply.pending_next (Nat.lt_succ_self _))

theorem Population.mem_ids_enroll {o : Organism}
    (member : id ∈ (p.enroll supply o).2.1.ids) :
    id ∈ p.ids ∨ id = o.id ∨ supply.Pending (p.enroll supply o).2.2.issued id := by
  obtain ⟨settled, middle, enters, enrolled⟩ := p.enroll_enters supply o
  rw [enrolled] at member ⊢
  rcases (p.mem_ids_append settled id).mp member with before | rfl
  · exact Or.inl before
  · exact Or.inr (enters.id_cases.imp_left And.left)

theorem Population.enroll_advances (p : Population) (supply : IdSupply) (o : Organism) :
    supply.Advances (p.enroll supply o).2.2 := by
  obtain ⟨settled, middle, enters, enrolled⟩ := p.enroll_enters supply o
  rw [enrolled]
  exact enters.advances

theorem mem_ids_enrollAll {arrived : List Organism}
    (member : id ∈ (Nursery.enrollAll p supply arrived).2.1.ids) :
    id ∈ p.ids ∨ (∃ o ∈ arrived, o.id = id) ∨
      supply.Pending (Nursery.enrollAll p supply arrived).2.2.issued id := by
  induction arrived generalizing p supply with
  | nil => exact Or.inl member
  | cons o rest inductionHypothesis =>
      simp only [Nursery.enrollAll] at member ⊢
      have advances := p.enroll_advances supply o
      have others := enrollAll_advances (p.enroll supply o).2.1 (p.enroll supply o).2.2 rest
      rcases inductionHypothesis member with before | ⟨x, came, rfl⟩ | fresh
      · rcases p.mem_ids_enroll before with before | rfl | fresh
        · exact Or.inl before
        · exact Or.inr (Or.inl ⟨o, List.mem_cons_self, rfl⟩)
        · exact Or.inr (Or.inr (fresh.mono others.issued))
      · exact Or.inr (Or.inl ⟨x, List.mem_cons_of_mem _ came, rfl⟩)
      · exact Or.inr (Or.inr (fresh.of_advances advances))

theorem mem_ids_enrollClones {now : Instant} {clones : List Clone}
    (member : id ∈ (enrollClones p now supply clones).1.ids) :
    id ∈ p.ids ∨ supply.Pending (enrollClones p now supply clones).2.2.issued id := by
  induction clones generalizing p supply with
  | nil => exact Or.inl member
  | cons clone rest inductionHypothesis =>
      simp only [enrollClones] at member ⊢
      let enrolled := p.enroll supply.next.2 { clone.organism with id := supply.next.1 }
      have advances : supply.next.2.Advances enrolled.2.2 := p.enroll_advances _ _
      have others := enrollClones_advances enrolled.2.1 now enrolled.2.2 rest
      have issued := Nat.le_trans advances.issued others.issued
      rcases inductionHypothesis member with before | fresh
      · rcases p.mem_ids_enroll before with before | rfl | fresh
        · exact Or.inl before
        · exact Or.inr (IdSupply.pending_next issued)
        · exact Or.inr ((fresh.mono others.issued).of_advances supply.advances_next)
      · exact Or.inr (fresh.of_advances (supply.advances_next.trans advances))

theorem mem_ids_fill {n : Nursery} {seeds : List Organism} {size : Nat} {now : Instant}
    (member : id ∈ (n.fill p seeds size now supply).1.ids) :
    id ∈ p.ids ∨ supply.Pending (n.fill p seeds size now supply).2.2.issued id :=
  mem_ids_enrollClones member

/-- Who is selected was in the population, and children are born under fresh ids. -/
theorem mem_ids_select {config : NurseryConfig} {strategy : Strategy} {landscape : Landscape}
    {now : Instant} {rng : Rng}
    (member : id ∈ (select config strategy landscape now p rng supply).population.ids) :
    id ∈ p.ids ∨
      supply.Pending (select config strategy landscape now p rng supply).supply.issued id := by
  by_cases empty : p.organisms = []
  · rw [select_of_nil empty] at member
    exact Or.inl member
  obtain ⟨skipped, children, selection⟩ :=
    select_isSelection config strategy landscape now rng supply empty
  rw [Population.ids, selection.organisms, List.map_append, List.mem_append] at member
  rcases member with elite | child
  · obtain ⟨o, among, rfl⟩ := List.mem_map.mp elite
    obtain ⟨old, before, rfl⟩ := exists_of_mem_rank (List.mem_of_mem_take among)
    exact Or.inl (List.mem_map.mpr ⟨old, before, rfl⟩)
  · rw [selection.ids] at child
    rw [skipped]
    exact Or.inr (IdSupply.mem_upcoming.mp child)

end Vivarium
