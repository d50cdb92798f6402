import Vivarium.Habitat.Basic
import Vivarium.Proofs.Breeding.Settling
import Vivarium.Proofs.Directory

/-!
# Sound habitats

In a *settled* habitat every organism is registered under its own id, which is not still to
be given out.  All operations keep a habitat settled, also one that lets a function from
outside change an organism, if the function leaves the id alone.  In a *sound* habitat the
organisms are normal besides.

Main definitions:

* `Habitat.Settled`, `Habitat.Sound`: residents at home under their ids.

Main statements:

* `enroll_enters`: what becomes of an organism that is registered;
* `Habitat.Settled.enroll`, `put`, `erase`: residents come, change and go;
* `Habitat.Settled.tick`: a cycle of all residents.
-/

namespace Vivarium

namespace Habitat

/-- The organism is at home under an id of the habitat. -/
structure IsAtHome (supply : IdSupply) (limit : Nat) (id : OrganismId) (o : Organism) : Prop where
  keyed : o.id = id
  normal : o.IsNormal
  settled : ¬supply.Pending limit id

/-- Every resident is at home under its id. -/
def Sound (h : Habitat) (supply : IdSupply) (limit : Nat) : Prop :=
  ∀ id r, h.residents.find? id = some r → IsAtHome supply limit id r.organism

/-- Every resident is registered under its own id, which is not given out any more. -/
def Settled (h : Habitat) (supply : IdSupply) (limit : Nat) : Prop :=
  ∀ id r, h.residents.find? id = some r → r.organism.id = id ∧ ¬supply.Pending limit id

variable {h : Habitat} {supply later : IdSupply} {limit : Nat} {id : OrganismId}

theorem Sound.settled (sound : h.Sound supply limit) : h.Settled supply limit := by
  intro id r found
  obtain ⟨keyed, -, settled⟩ := sound id r found
  exact ⟨keyed, settled⟩

theorem Settled.of_advances (settled : h.Settled supply limit) (advances : supply.Advances later) :
    h.Settled later limit := by
  intro id r found
  obtain ⟨keyed, given⟩ := settled id r found
  exact ⟨keyed, IdSupply.not_pending_of_advances advances given⟩

theorem sound_founded (config : HabitatConfig) (rng : Rng) (supply : IdSupply) (limit : Nat) :
    (founded config rng).Sound supply limit := by
  intro id r found
  cases found

theorem contains_iff_find? : h.contains id = true ↔ ∃ o, h.find? id = some o := by
  rw [contains, Directory.contains_iff]
  constructor
  · rintro ⟨r, found⟩
    exact ⟨r.organism, by rw [find?, found]; rfl⟩
  · rintro ⟨o, found⟩
    obtain ⟨r, stored, -⟩ := Option.map_eq_some_iff.mp found
    exact ⟨r, stored⟩

/-! ## Residents -/

/-- An organism is registered normalized, awake, and under an id that it has. -/
theorem enroll_enters (h : Habitat) (supply : IdSupply) (o : Organism) :
    ∃ settled later,
      o.normalize.Enters (fun id => h.contains id = true) supply settled later ∧
        h.enroll supply o =
          (settled, { h with residents := h.residents.insert settled.id ⟨settled, false⟩ },
            later) := by
  by_cases taken : h.contains o.id = true
  · refine ⟨_, _, Or.inr ⟨taken, rfl, rfl⟩, ?_⟩
    simp only [enroll, taken, if_true]
    rfl
  · refine ⟨_, _, Or.inl ⟨taken, rfl, rfl⟩, ?_⟩
    simp only [enroll, taken]
    rfl

theorem contains_insert (h : Habitat) (r : Resident) (key id : OrganismId) :
    ({ h with residents := h.residents.insert key r } : Habitat).contains id = true ↔
      h.contains id = true ∨ id = key := by
  simp only [contains, Directory.contains, Directory.find?_insert]
  by_cases same : id = key
  · rw [if_pos same]
    exact ⟨fun _ => Or.inr same, fun _ => rfl⟩
  · rw [if_neg same]
    exact ⟨Or.inl, fun either => either.resolve_right same⟩

theorem resident_eq_ok {r : Resident} :
    h.resident id = .ok r ↔ h.residents.find? id = some r := by
  unfold resident
  cases found : h.residents.find? id with
  | none => constructor <;> intro impossible <;> cases impossible
  | some r => rw [Except.ok.injEq, Option.some.injEq]

/-- What is held by a settled habitat is not given out any more. -/
theorem Settled.not_pending (settled : h.Settled supply limit) (held : h.contains id = true) :
    ¬supply.Pending limit id := by
  obtain ⟨r, found⟩ := Directory.contains_iff.mp held
  exact (settled id r found).2

theorem Settled.put (settled : h.Settled supply limit) {r : Resident} (keyed : r.organism.id = id)
    (given : ¬supply.Pending limit id) : (h.put id r).Settled supply limit := by
  intro other found stored
  rw [Habitat.put, Directory.find?_insert] at stored
  split at stored
  · rename_i same
    cases stored
    rw [same]
    exact ⟨keyed, given⟩
  · exact settled other found stored

/-- A resident that remains the one it is is put back under its id. -/
theorem Settled.put_back (settled : h.Settled supply limit) {r changed : Resident}
    (found : h.residents.find? id = some r) (same : changed.organism.id = r.organism.id) :
    (h.put id changed).Settled supply limit := by
  obtain ⟨keyed, given⟩ := settled id r found
  exact settled.put (same.trans keyed) given

theorem Settled.erase (settled : h.Settled supply limit) (id : OrganismId) :
    ({ h with residents := h.residents.erase id } : Habitat).Settled supply limit := by
  intro other r found
  rw [Directory.find?_erase] at found
  split at found
  · cases found
  · exact settled other r found

theorem enroll_advances (h : Habitat) (supply : IdSupply) (o : Organism) :
    supply.Advances (h.enroll supply o).2.2 := by
  obtain ⟨settled, middle, enters, enrolled⟩ := h.enroll_enters supply o
  rw [enrolled]
  exact enters.advances

/-- Nobody is registered in place of another one. -/
theorem Settled.not_contains_enroll (settled : h.Settled supply limit) {o : Organism}
    (room : (h.enroll supply o).2.2.issued ≤ limit) :
    h.contains (h.enroll supply o).1.id = false := by
  obtain ⟨registered, middle, enters, enrolled⟩ := h.enroll_enters supply o
  rw [enrolled] at room ⊢
  rw [← Bool.not_eq_true]
  exact enters.not_held (fun _ => settled.not_pending) room

theorem Settled.enroll (settled : h.Settled supply limit) (distinct : supply.DistinctUpTo limit)
    {o : Organism} (entering : ¬supply.Pending limit o.id)
    (room : (h.enroll supply o).2.2.issued ≤ limit) :
    (h.enroll supply o).2.1.Settled (h.enroll supply o).2.2 limit := by
  obtain ⟨registered, middle, enters, enrolled⟩ := h.enroll_enters supply o
  rw [enrolled] at room ⊢
  exact Settled.put (settled.of_advances enters.advances) rfl
    (enters.not_pending distinct entering room)

/-- A cycle of the whole habitat is a cycle of each resident in its turn. -/
theorem Settled.tick (settled : h.Settled supply limit) (now : Instant) :
    (h.tick now).2.Settled supply limit := by
  intro id r found
  obtain ⟨before, ⟨rng, report⟩, stored, visited⟩ := Directory.find?_traverse found
  obtain ⟨keyed, given⟩ := settled id before stored
  have possible := Draw.yields_run (before.cycle h.config now) rng
  rw [visited]
  exact ⟨(Organism.keptInCycles_id _ now id).cycle keyed possible, given⟩

end Habitat

end Vivarium
