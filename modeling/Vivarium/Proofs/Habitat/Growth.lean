import Vivarium.Proofs.Habitat.Soundness

/-!
# Growth of a habitat

What an operation makes of the residents is told here by their number and their ids alone.
Cycles and steps of evolution put back whom they have looked up, so they let nobody in.

Main definitions:

* `Habitat.GrowsBy`: a habitat with so many organisms more, at most.

Main statements:

* `Habitat.GrowsBy.of_insert`, `erase`, `tick`: nobody comes;
* `Habitat.GrowsBy.enroll`: one organism comes.
-/

namespace Vivarium

namespace Habitat

/-- A habitat that has not been opened, and has so many organisms more at most.  If it is none,
all who are there were there before. -/
structure GrowsBy (arrivals : Nat) (h later : Habitat) : Prop where
  closed : h.isOpen = false → later.isOpen = false
  size : later.residents.size ≤ h.residents.size + arrivals
  known : arrivals = 0 → ∀ id, later.contains id = true → h.contains id = true

namespace GrowsBy

variable {h later last : Habitat} {id : OrganismId}

theorem refl (h : Habitat) : GrowsBy 0 h h := ⟨fun closed => closed, Nat.le_refl _, fun _ _ => id⟩

theorem trans {first second : Nat} (before : GrowsBy first h later)
    (behind : GrowsBy second later last) : GrowsBy (first + second) h last := by
  refine ⟨fun closed => behind.closed (before.closed closed), ?_, ?_⟩
  · have sizeBefore := before.size
    have sizeBehind := behind.size
    omega
  · intro none id held
    obtain ⟨noneBefore, noneBehind⟩ := Nat.add_eq_zero_iff.mp none
    exact before.known noneBefore id (behind.known noneBehind id held)

/-- A resident is put in exchange for another one under its id. -/
theorem of_insert {r : Resident} (found : h.residents.find? id = some r) (other : Resident)
    (residents : later.residents = h.residents.insert id other)
    (isOpen : later.isOpen = h.isOpen) : GrowsBy 0 h later := by
  refine ⟨isOpen.trans, ?_, ?_⟩
  · rw [residents, Directory.size_insert_of_find? Uuid.lt_irrefl found]
    exact Nat.le_refl _
  · intro _ x held
    rw [contains, residents] at held
    rcases (h.contains_insert other id x).mp held with before | rfl
    · exact before
    · exact Directory.contains_iff.mpr ⟨r, found⟩

theorem erase (h : Habitat) (id : OrganismId) :
    GrowsBy 0 h { h with residents := h.residents.erase id } := by
  refine ⟨fun closed => closed, Directory.size_erase_le _ _, ?_⟩
  intro _ x held
  obtain ⟨r, found⟩ := Directory.contains_iff.mp held
  rw [Directory.find?_erase] at found
  split at found
  · cases found
  · exact Directory.contains_iff.mpr ⟨r, found⟩

theorem tick (h : Habitat) (now : Instant) : GrowsBy 0 h (h.tick now).2 := by
  have sameKeys : (h.tick now).2.residents.keys = h.residents.keys :=
    Directory.keys_traverseEntries _ h.residents.entries _
  refine ⟨fun closed => closed, ?_, ?_⟩
  · show (h.tick now).2.residents.entries.length ≤ h.residents.entries.length
    have sameLength := congrArg List.length sameKeys
    rw [Directory.keys, Directory.keys, List.length_map, List.length_map] at sameLength
    exact Nat.le_of_eq sameLength
  · intro _ id held
    rw [contains, Directory.contains_iff_mem_keys, sameKeys] at held
    exact Directory.contains_iff_mem_keys.mpr held

theorem shutdown (h : Habitat) : GrowsBy 0 h h.shutdown :=
  ⟨fun _ => rfl, Nat.le_refl _, fun _ _ => id⟩

theorem enroll (h : Habitat) (supply : IdSupply) (o : Organism) :
    GrowsBy 1 h (h.enroll supply o).2.1 := by
  obtain ⟨settled, later, -, enrolled⟩ := h.enroll_enters supply o
  rw [enrolled]
  exact ⟨fun closed => closed, Directory.size_insert_le _ _ _, fun impossible => nomatch impossible⟩

end GrowsBy

end Habitat

end Vivarium
