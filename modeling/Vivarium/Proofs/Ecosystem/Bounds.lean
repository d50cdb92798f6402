import Vivarium.Proofs.Ecosystem.Heredity
import Vivarium.Proofs.Ecosystem.Transfer

/-!
# Values in bounds

Organisms may come with any doubles in their vital values.  No one in the ecosystem ever
shows them: the four vital values of every organism are numbers of the unit interval, in
every state that a course of requests leads to, under any configuration, and whatever was
drawn.  Contributions of genes are not normalized when an organism comes; but if all that
came in kept to the limit, all that are there do.

Both are hereditary traits.  Normalizing gives the first one to everybody who is admitted.
A clone is bred from a seed that is not normalized yet, but a mutation ends in normalizing,
and each clone mutates.

Main statements:

* `Ecosystem.values_in_bounds`: vital values and contributions after a course.
-/

namespace Vivarium

namespace Ecosystem

/-- **Values stay in bounds.**  After a course in which no organism was modified from
outside, all vital values are numbers of the unit interval; and all contributions lie
between `-1` and `1` if those of all organisms that came did. -/
theorem values_in_bounds {c : Config} {habitatSeed nurserySeed : Nat} {supply : IdSupply}
    {exchanges : List Exchange} {e : Ecosystem}
    (course : Course (founded c habitatSeed nurserySeed supply) exchanges e)
    (faithful : ∀ x ∈ exchanges, ¬x.request.Modifies) :
    (∀ o, e.Houses o → ∀ value ∈ o.state.vitals,
      value.isNaN = false ∧ 0.0 ≤ value ∧ value ≤ 1.0) ∧
    ((∀ x ∈ exchanges, ∀ o ∈ x.entering, ∀ gene ∈ o.genes,
        -1.0 ≤ gene.contribution ∧ gene.contribution ≤ 1.0) →
      ∀ o, e.Houses o → ∀ gene ∈ o.genes,
        -1.0 ≤ gene.contribution ∧ gene.contribution ≤ 1.0) := by
  have leads : ∀ {Trait}, ∀ x ∈ exchanges, x.request.Leads Trait Trait :=
    fun x member => Request.leads_of_not_modifies (faithful x member)
  constructor
  · intro o housed
    have common : e.All Organism.IsNormal :=
      course.hereditary Organism.isHereditary_isNormal (All.founded _ _ _ _) leads
        fun _ _ _ _ => trivial
    exact (common.of_houses housed).vitals
  · intro promised o housed
    have common : e.All Organism.IsBounded :=
      course.hereditary Organism.isHereditary_isBounded (All.founded _ _ _ _) leads promised
    exact common.of_houses housed

/-- An organism whose vital values are out of bounds or no numbers, with a gene at the
limit. -/
def eft : Organism :=
  { newt with
    state := ⟨Float.ofBits 0x7FF8000000000000, Float.ofBits 0x7FF0000000000000, -3.0, 1.5, 0, 1⟩
    genes := [⟨1, "gill", .sensor, "", true, 1.0⟩] }

/-- The eft is registered in a new ecosystem, and a cycle goes by. -/
theorem values_in_bounds_eft :
    let e := (wasteland.registered eft).2
    let later := { e with habitat := (e.habitat.tick ⟨0, 0⟩).2 }
    (∀ o, later.Houses o → ∀ value ∈ o.state.vitals,
      value.isNaN = false ∧ 0.0 ≤ value ∧ value ≤ 1.0) ∧
    (∀ o, later.Houses o → ∀ gene ∈ o.genes,
      -1.0 ≤ gene.contribution ∧ gene.contribution ≤ 1.0) := by
  intro e later
  let registering := Exchange.granted ⟨0, 0⟩ (.register eft) (wasteland.registered eft).1
  let ticking := Exchange.granted ⟨0, 0⟩ .tick (e.habitat.tick ⟨0, 0⟩).1
  have registered : Course wasteland [registering] e :=
    Course.start.step (serves_of_effect (Effect.register eft rfl))
  have course : Course wasteland [registering, ticking] later :=
    registered.step (serves_of_effect Effect.tick)
  have faithful : ∀ x ∈ [registering, ticking], ¬x.request.Modifies := by
    intro x member
    rcases List.mem_pair.mp member with rfl | rfl <;> exact not_false
  have promised : ∀ x ∈ [registering, ticking], ∀ o ∈ x.entering, ∀ gene ∈ o.genes,
      -1.0 ≤ gene.contribution ∧ gene.contribution ≤ 1.0 := by
    intro x member o came
    rcases List.mem_pair.mp member with rfl | rfl
    · obtain rfl : o = eft := List.mem_singleton.mp came
      decide
    · cases came
  exact ⟨(values_in_bounds course faithful).1, (values_in_bounds course faithful).2 promised⟩

end Ecosystem

end Vivarium
