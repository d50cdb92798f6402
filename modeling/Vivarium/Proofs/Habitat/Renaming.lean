import Mathlib.Data.List.Nodup
import Vivarium.Proofs.Breeding.Renaming
import Vivarium.Proofs.Ecosystem.Effect

/-!
# Habitats under other ids

A habitat keeps its residents by their ids.  It looks an id up, puts one in and takes one out,
and for all of this it only matters which ids are the same.  So each of these operations comes to
the same on the renamed habitat.

It lists its residents in ascending order of the ids, however, and a cycle of all of them hands
the random stream on in that order.  Here ids are compared, and a renaming that changes the order
changes who draws what.  A cycle of all is therefore the same only if the renaming keeps the
residents in order.

Main definitions:

* `Directory.rekeyed`: a directory under other keys;
* `Habitat.renamed`: the habitat under the new ids;
* `Habitat.KeepsOrder`: the renaming does not change the order of the residents.

Main statements:

* `Directory.find?_rekeyed`, `Directory.entries_rekeyed`: what is found, and in which order;
* `Habitat.register_renamed`, `execute_renamed`, `evolve_renamed`: operations on one organism;
* `Habitat.tick_renamed`: a cycle of all.
-/

namespace Vivarium

/-! ## Directories under other keys -/

namespace Directory

universe u v w

variable {κ : Type u} [LT κ] [DecidableEq κ] [DecidableLT κ] [KeyOrder κ] {α : Type v} {β : Type w}

/-- The directory under other keys, with other values. -/
def rekeyed (f : Equiv.Perm κ) (g : α → β) (d : Directory κ α) : Directory κ β :=
  ofList (d.entries.map fun entry => (f entry.1, g entry.2))

section

variable (irreflexive : ∀ key : κ, ¬key < key) (f : Equiv.Perm κ) (g : α → β)
include irreflexive

theorem find?_rekeyed (d : Directory κ α) (key : κ) :
    (d.rekeyed f g).find? (f key) = (d.find? key).map g := by
  have distinct : ((d.entries.map fun entry => (f entry.1, g entry.2)).map (·.1)).Nodup := by
    have keys : (d.keys.map f).Nodup := List.Nodup.map f.injective (d.nodup_keys irreflexive)
    rw [Directory.keys, List.map_map] at keys
    rw [List.map_map]
    exact keys
  ext value
  rw [rekeyed, find?_ofList distinct, List.mem_map, Option.map_eq_some_iff]
  constructor
  · rintro ⟨⟨old, first⟩, listed, same⟩
    obtain ⟨sameKey, rfl⟩ := Prod.mk.inj same
    obtain rfl := f.injective sameKey
    exact ⟨first, find?_eq_some_of_mem irreflexive listed, rfl⟩
  · rintro ⟨first, found, rfl⟩
    exact ⟨(key, first), mem_of_lookup found, rfl⟩

theorem rekeyed_insert (d : Directory κ α) (key : κ) (value : α) :
    (d.insert key value).rekeyed f g = (d.rekeyed f g).insert (f key) (g value) := by
  refine ext_of_find? irreflexive ?_
  intro other
  obtain ⟨old, rfl⟩ := f.surjective other
  rw [find?_rekeyed irreflexive, find?_insert, find?_insert, find?_rekeyed irreflexive]
  by_cases same : old = key
  · rw [if_pos same, if_pos (congrArg f same)]
    rfl
  · rw [if_neg same, if_neg (f.injective.ne same)]

theorem rekeyed_erase (d : Directory κ α) (key : κ) :
    (d.erase key).rekeyed f g = (d.rekeyed f g).erase (f key) := by
  refine ext_of_find? irreflexive ?_
  intro other
  obtain ⟨old, rfl⟩ := f.surjective other
  rw [find?_rekeyed irreflexive, find?_erase, find?_erase, find?_rekeyed irreflexive]
  by_cases same : old = key
  · rw [if_pos same, if_pos (congrArg f same)]
    rfl
  · rw [if_neg same, if_neg (f.injective.ne same)]

/-- Keys that keep their order keep their places. -/
theorem entries_rekeyed {d : Directory κ α}
    (ordered : ∀ a ∈ d.keys, ∀ b ∈ d.keys, a < b → f a < f b) :
    (d.rekeyed f g).entries = d.entries.map fun entry => (f entry.1, g entry.2) := by
  have ascending : (d.entries.map fun entry => (f entry.1, g entry.2)).Pairwise
      fun a b => a.1 < b.1 := by
    refine List.pairwise_map.mpr (d.ascending.imp_of_mem ?_)
    intro a b first second less
    exact ordered a.1 (List.mem_map_of_mem first) b.1 (List.mem_map_of_mem second) less
  let inPlace : Directory κ β := ⟨_, ascending⟩
  suffices same : d.rekeyed f g = inPlace from congrArg entries same
  refine ext_of_find? irreflexive ?_
  intro other
  obtain ⟨key, rfl⟩ := f.surjective other
  rw [find?_rekeyed irreflexive]
  symm
  cases found : d.find? key with
  | none =>
      refine List.lookup_eq_none_iff.mpr ?_
      intro entry listed
      obtain ⟨old, among, rfl⟩ := List.mem_map.mp listed
      have unlike := List.lookup_eq_none_iff.mp found old among
      rw [bne_iff_ne] at unlike ⊢
      exact f.injective.ne unlike
  | some value =>
      have listed : (f key, g value) ∈ inPlace.entries :=
        List.mem_map.mpr ⟨(key, value), mem_of_lookup found, rfl⟩
      exact find?_eq_some_of_mem irreflexive listed

end

end Directory

variable {π : Renaming} {limit : Nat} {supply other : IdSupply} {now : Instant}

open IdSupply (Mirrors)

/-- The fault with new ids. -/
def HabitatFault.renamed (π : Renaming) : HabitatFault → HabitatFault
  | .notFound id => .notFound (π id)
  | fault => fault

namespace Habitat

/-- The habitat under the new ids. -/
def renamed (π : Renaming) (h : Habitat) : Habitat :=
  { h with residents := h.residents.rekeyed π (Resident.renamed π) }

variable {h : Habitat} {id : OrganismId}

theorem find?_residents_renamed (h : Habitat) (id : OrganismId) :
    (h.renamed π).residents.find? (π id) = (h.residents.find? id).map (Resident.renamed π) :=
  Directory.find?_rekeyed Uuid.lt_irrefl π (Resident.renamed π) h.residents id

theorem contains_renamed (h : Habitat) (id : OrganismId) :
    (h.renamed π).contains (π id) = h.contains id := by
  rw [contains, contains, Directory.contains, Directory.contains, find?_residents_renamed,
    Option.isSome_map]

theorem renamed_put (h : Habitat) (id : OrganismId) (r : Resident) :
    (h.put id r).renamed π = (h.renamed π).put (π id) (r.renamed π) := by
  simp only [put, renamed, Directory.rekeyed_insert Uuid.lt_irrefl]

theorem resident_renamed (h : Habitat) (id : OrganismId) :
    (h.renamed π).resident (π id) =
      mapOutcome (HabitatFault.renamed π) (Resident.renamed π) (h.resident id) := by
  unfold resident
  rw [find?_residents_renamed]
  cases h.residents.find? id <;> rfl

/-! ## Coming and going -/

theorem enroll_renamed (mirrors : Mirrors π limit supply other) (h : Habitat) (o : Organism)
    (room : (h.enroll supply o).2.2.issued ≤ limit) :
    (h.renamed π).enroll other (o.renamed π) =
      let enrolled := h.enroll supply o
      (enrolled.1.renamed π, enrolled.2.1.renamed π, other.follow enrolled.2.2) := by
  let settled (id : OrganismId) : Resident := ⟨({ o with id := id } : Organism).normalize, false⟩
  have added : ∀ id, (h.renamed π).put (π id) (settled (π id)) =
      (h.put id (settled id)).renamed π := fun id => (h.renamed_put id (settled id)).symm
  unfold enroll at room ⊢
  rw [Organism.renamed_id, contains_renamed]
  by_cases taken : h.contains o.id = true
  · rw [if_pos taken] at room ⊢
    rw [if_pos taken, mirrors.next room]
    exact congrArg (fun q => (_, q, _)) (added _)
  · rw [if_neg taken] at room ⊢
    rw [if_neg taken]
    show (_, _, other) = (_, _, other.follow supply)
    rw [mirrors.follow_self]
    exact congrArg (fun q => (_, q, _)) (added _)

theorem register_renamed (mirrors : Mirrors π limit supply other) (h : Habitat) (o : Organism)
    (room : ∀ result, h.register supply o = .ok result → result.2.2.issued ≤ limit) :
    (h.renamed π).register other (o.renamed π) =
      mapOutcome (HabitatFault.renamed π)
        (fun result => (result.1.renamed π, result.2.1.renamed π, other.follow result.2.2))
        (h.register supply o) := by
  have sameGate : (h.renamed π).isOpen = h.isOpen := rfl
  unfold register at room ⊢
  rw [sameGate]
  by_cases isOpen : h.isOpen = true
  · rw [if_pos isOpen] at room ⊢
    rw [if_pos isOpen, enroll_renamed mirrors h o (room _ rfl)]
    rfl
  · rw [if_neg isOpen, if_neg isOpen]
    rfl

theorem renamed_erase (h : Habitat) (id : OrganismId) :
    ({ h with residents := h.residents.erase id } : Habitat).renamed π =
      { h.renamed π with residents := (h.renamed π).residents.erase (π id) } := by
  simp only [renamed, Directory.rekeyed_erase Uuid.lt_irrefl]

theorem take?_renamed (h : Habitat) (id : OrganismId) :
    (h.renamed π).take? (π id) =
      (h.take? id).map fun taken => (taken.1.renamed π, taken.2.renamed π) := by
  unfold take? find?
  rw [find?_residents_renamed]
  cases h.residents.find? id with
  | none => rfl
  | some r => exact congrArg (fun left => some (_, left)) (h.renamed_erase id).symm

/-! ## Cycles -/

theorem renamed_afterCycle (h : Habitat) (id : OrganismId) (cycled : Resident)
    (outcome : CycleOutcome) (rng : Rng) :
    (h.afterCycle id cycled outcome rng).renamed π =
      (h.renamed π).afterCycle (π id) (cycled.renamed π) outcome rng := by
  unfold afterCycle
  rw [← renamed_put]
  rfl

theorem renamed_afterEvolution (h : Habitat) (id : OrganismId) (evolved : Resident)
    (changed : Bool) (rng : Rng) :
    (h.afterEvolution id evolved changed rng).renamed π =
      (h.renamed π).afterEvolution (π id) (evolved.renamed π) changed rng := by
  unfold afterEvolution
  rw [← renamed_put]
  rfl

theorem execute_renamed (h : Habitat) (id : OrganismId) (now : Instant) :
    (h.renamed π).execute (π id) now =
      mapOutcome (HabitatFault.renamed π) (renamed π) (h.execute id now) := by
  have looked := h.find?_residents_renamed (π := π) id
  cases found : h.residents.find? id with
  | none =>
      rw [found] at looked
      simp only [execute, resident, found, looked]
      rfl
  | some r =>
      rw [found] at looked
      generalize drawn : (r.cycle h.config now).run h.rng = result
      obtain ⟨⟨cycled, outcome⟩, rng⟩ := result
      have drawnToo : ((r.renamed π).cycle (h.renamed π).config now).run (h.renamed π).rng =
          ((cycled.renamed π, outcome), rng) := by
        show ((r.renamed π).cycle h.config now).run h.rng = _
        rw [Resident.cycle_renamed, StateT.run_map, drawn]
        rfl
      rw [execute_of_find? found drawn, execute_of_find? looked drawnToo, ← renamed_afterCycle]
      rfl

theorem evolve_renamed (h : Habitat) (id : OrganismId) (now : Instant) :
    (h.renamed π).evolve (π id) now =
      mapOutcome (HabitatFault.renamed π) (fun result => (result.1, result.2.renamed π))
        (h.evolve id now) := by
  have looked := h.find?_residents_renamed (π := π) id
  cases found : h.residents.find? id with
  | none =>
      rw [found] at looked
      simp only [evolve, resident, found, looked]
      rfl
  | some r =>
      rw [found] at looked
      generalize drawn : (r.organism.evolve now).run h.rng = result
      obtain ⟨⟨evolved, outcome⟩, rng⟩ := result
      have drawnToo : ((r.renamed π).organism.evolve now).run (h.renamed π).rng =
          ((evolved.renamed π, outcome), rng) := by
        show ((r.organism.renamed π).evolve now).run h.rng = _
        rw [Organism.evolve_renamed, StateT.run_map, drawn]
        rfl
      rw [evolve_of_find? found drawn, evolve_of_find? looked drawnToo]
      show _ = Except.ok (_, (h.afterEvolution _ _ _ _).renamed π)
      rw [renamed_afterEvolution]
      rfl

theorem modify_renamed (h : Habitat) (id : OrganismId) (f : Organism → Organism) :
    (h.renamed π).modify (π id) (fun o => (f (o.renamed π.symm)).renamed π) =
      mapOutcome (HabitatFault.renamed π) (renamed π) (h.modify id f) := by
  unfold modify
  rw [resident_renamed]
  cases h.resident id with
  | error fault => rfl
  | ok r =>
      have changed : (f ((r.organism.renamed π).renamed π.symm)).renamed π =
          (f r.organism).renamed π := by
        rw [Organism.renamed_symm_renamed]
      show Except.ok ((h.renamed π).put (π id)
        { r with organism := (f ((r.organism.renamed π).renamed π.symm)).renamed π }) =
          Except.ok ((h.put id { r with organism := f r.organism }).renamed π)
      rw [changed, renamed_put]
      rfl

/-! ## Cycles of all -/

/-- The residents come in the same order under their new ids. -/
def KeepsOrder (π : Renaming) (h : Habitat) : Prop :=
  ∀ a ∈ h.ids, ∀ b ∈ h.ids, a < b → π a < π b

theorem visit_renamed (config : HabitatConfig) (now : Instant) (id : OrganismId) (r : Resident)
    (s : Rng × TickReport) :
    visit config now (π id) (r.renamed π) s =
      ((visit config now id r s).1.renamed π, (visit config now id r s).2) := by
  unfold visit
  rw [Resident.cycle_renamed, StateT.run_map]
  rfl

/-- A walk through renamed residents in the same order comes to renamed residents. -/
theorem traverseEntries_renamed (config : HabitatConfig) (now : Instant)
    (entries : List (OrganismId × Resident)) (s : Rng × TickReport) :
    let rename (entry : OrganismId × Resident) := (π entry.1, entry.2.renamed π)
    Directory.traverseEntries (visit config now) (entries.map rename) s =
      let walked := Directory.traverseEntries (visit config now) entries s
      (walked.1.map rename, walked.2) := by
  intro rename
  induction entries generalizing s with
  | nil => rfl
  | cons entry rest inductionHypothesis =>
      simp only [List.map_cons, Directory.traverseEntries, rename, visit_renamed]
      rw [inductionHypothesis]

theorem tick_renamed (ordered : KeepsOrder π h) (now : Instant) :
    (h.renamed π).tick now = ((h.tick now).1, (h.tick now).2.renamed π) := by
  have sameIds : (h.tick now).2.ids = h.ids :=
    Directory.keys_traverseEntries (visit h.config now) h.residents.entries _
  have orderedAfter : KeepsOrder π (h.tick now).2 := by
    unfold KeepsOrder
    rw [sameIds]
    exact ordered
  have listed : (h.renamed π).residents.entries = _ :=
    Directory.entries_rekeyed Uuid.lt_irrefl π (Resident.renamed π) ordered
  have listedAfter : ((h.tick now).2.renamed π).residents.entries = _ :=
    Directory.entries_rekeyed Uuid.lt_irrefl π (Resident.renamed π) orderedAfter
  have walked := traverseEntries_renamed (π := π) h.config now h.residents.entries
    (h.rng, TickReport.empty)
  dsimp only at walked
  rw [← listed] at walked
  have residents : ((h.renamed π).tick now).2.residents = ((h.tick now).2.renamed π).residents := by
    refine Directory.ext ?_
    rw [listedAfter]
    exact congrArg Prod.fst walked
  -- what is left of a cycle but for the residents is what the walk hands on
  let finished (residents : Directory OrganismId Resident) (s : Rng × TickReport) :
      TickReport × Habitat :=
    let counters := h.counters.record s.2
    (s.2, { h with
      residents := residents
      rng := s.1
      counters := { counters with cycles := counters.cycles + 1 } })
  show finished ((h.renamed π).tick now).2.residents (Directory.traverseEntries
    (visit h.config now) (h.renamed π).residents.entries (h.rng, TickReport.empty)).2 = _
  rw [residents, walked]
  rfl

end Habitat

end Vivarium
