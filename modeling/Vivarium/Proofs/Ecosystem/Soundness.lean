import Vivarium.Proofs.Ecosystem.Heredity

/-!
# Sound ecosystems

An ecosystem is *settled* when its residents and the organisms of its populations have ids
that are their own and are not still to be given out, with respect to the one supply of
fresh ids that habitat and nursery share.  A new ecosystem is settled, and each request that
leaves ids alone keeps it so.  An ecosystem is *sound* when its organisms are normal
besides, which is a hereditary trait; hence every reachable ecosystem is sound.  This is all
that the transfers between habitat and nursery rely on.

Main definitions:

* `Ecosystem.Settled`, `Ecosystem.Sound`: habitat and nursery together.

Main statements:

* `Ecosystem.Settled.canHarvest`, `canRelease`: the organisms of a transfer can settle;
* `Ecosystem.Settled.effect`, `Ecosystem.Sound.perform`: one request;
* `Ecosystem.Reachable.sound`: a run.
-/

namespace Vivarium

namespace Ecosystem

/-- Habitat and nursery are sound with respect to the supply, whose ids in front of
the limit are different. -/
structure Sound (e : Ecosystem) (limit : Nat) : Prop where
  distinct : e.supply.DistinctUpTo limit
  habitat : e.habitat.Sound e.supply limit
  nursery : e.nursery.Sound e.supply limit

/-- The habitat is settled and the nursery is sound with respect to the supply, whose ids in
front of the limit are different. -/
structure Settled (e : Ecosystem) (limit : Nat) : Prop where
  distinct : e.supply.DistinctUpTo limit
  habitat : e.habitat.Settled e.supply limit
  nursery : e.nursery.Sound e.supply limit

theorem sound_founded (c : Config) (habitatSeed nurserySeed : Nat) {supply : IdSupply}
    {limit : Nat} (distinct : supply.DistinctUpTo limit) :
    (founded c habitatSeed nurserySeed supply).Sound limit :=
  ⟨distinct, Habitat.sound_founded _ _ supply limit, Nursery.sound_founded _ _ supply limit⟩

variable {e later : Ecosystem} {limit : Nat} {population strategyName : String}
  {strategy : Strategy} {source : Population} {ids : List OrganismId} {now : Instant}

theorem Sound.settled (sound : e.Sound limit) : e.Settled limit :=
  ⟨sound.distinct, sound.habitat.settled, sound.nursery⟩

/-- The organisms of a sound ecosystem are normal wherever they are. -/
theorem Sound.isNormal (sound : e.Sound limit) : e.All Organism.IsNormal := by
  constructor
  · intro r member
    obtain ⟨id, found⟩ := Directory.exists_find?_of_mem_values
      Uuid.lt_irrefl member
    exact (sound.habitat id r found).normal
  · intro p member
    obtain ⟨name, found⟩ := Directory.exists_find?_of_mem_values String.lt_irrefl member
    exact (sound.nursery name p found).normal

/-- An ecosystem that is settled, with normal organisms, is sound. -/
theorem Settled.sound (settled : e.Settled limit) (normal : e.All Organism.IsNormal) :
    e.Sound limit := by
  refine ⟨settled.distinct, ?_, settled.nursery⟩
  intro id r found
  obtain ⟨keyed, given⟩ := settled.habitat id r found
  exact ⟨keyed, normal.habitat.of_find? found, given⟩

/-! ## Organisms of a transfer -/

/-- The population into which organisms are harvested is sound, be it old or new. -/
theorem Settled.target (settled : e.Settled limit) (population : String) (strategy : Strategy)
    (now : Instant) :
    AreSound (e.target population strategy now).organisms e.supply limit := by
  unfold Ecosystem.target
  cases held : e.nursery.populations.find? population with
  | none => exact AreSound.nil e.supply limit
  | some p => exact settled.nursery population p held

/-- An organism that is taken was registered under its own id, which is on the list. -/
theorem Settled.find?_taken (settled : e.Settled limit) {o : Organism}
    (member : o ∈ (takeAll e.habitat ids).1) : e.habitat.find? o.id = some o := by
  rw [(takeAll_isTaking e.habitat ids).organisms] at member
  obtain ⟨id, -, found⟩ := List.mem_filterMap.mp member
  obtain ⟨r, stored, rfl⟩ := Option.map_eq_some_iff.mp found
  rw [(settled.habitat id r stored).1]
  exact found

theorem Settled.listed_of_taken (settled : e.Settled limit) {o : Organism}
    (member : o ∈ (takeAll e.habitat ids).1) : o.id ∈ ids := by
  rw [(takeAll_isTaking e.habitat ids).organisms] at member
  obtain ⟨id, listed, found⟩ := List.mem_filterMap.mp member
  obtain ⟨r, stored, rfl⟩ := Option.map_eq_some_iff.mp found
  rw [(settled.habitat id r stored).1]
  exact List.mem_eraseDups.mp listed

theorem Settled.not_pending_taken (settled : e.Settled limit) {o : Organism}
    (member : o ∈ (takeAll e.habitat ids).1) : ¬e.supply.Pending limit o.id := by
  obtain ⟨r, stored, rfl⟩ := Option.map_eq_some_iff.mp (settled.find?_taken member)
  exact (settled.habitat _ r stored).2

/-- Registered ids are those of the organisms taken. -/
theorem Settled.map_id_takeAll (settled : e.Settled limit)
    (registered : ∀ id ∈ ids, e.habitat.contains id = true) :
    (takeAll e.habitat ids).1.map (·.id) = ids.eraseDups := by
  refine Vivarium.map_id_takeAll registered ?_
  intro id _ o found
  obtain ⟨r, stored, rfl⟩ := Option.map_eq_some_iff.mp found
  exact (settled.habitat id r stored).1

theorem Settled.canHarvest (settled : e.Settled limit)
    (registered : ∀ id ∈ ids, e.habitat.contains id = true) :
    CanSettle (· ∈ (e.target population strategy now).ids) e.supply limit
      (takeAll e.habitat ids).1 where
  distinct := settled.distinct
  held := fun id member => (settled.target population strategy now).not_pending member
  unlike := by
    rw [settled.map_id_takeAll registered]
    exact nodup_eraseDups ids
  entering := fun o member => settled.not_pending_taken member

/-- The ids that a population holds are those of the organisms taken. -/
theorem map_id_taken (held : ∀ id ∈ ids, source.contains id = true) :
    (ids.eraseDups.filterMap source.find?).map (·.id) = ids.eraseDups := by
  refine map_id_filterMap ?_
  intro id member
  obtain ⟨o, found⟩ :=
    Population.contains_iff_find?.mp (held id (List.mem_eraseDups.mp member))
  exact ⟨o, found, Population.id_of_find? found⟩

theorem Settled.canRelease (settled : e.Settled limit)
    (known : e.nursery.populations.find? population = some source)
    (held : ∀ id ∈ ids, source.contains id = true) :
    CanSettle (fun id => e.habitat.contains id = true) e.supply limit
      (ids.eraseDups.filterMap source.find?) where
  distinct := settled.distinct
  held := fun id registered => settled.habitat.not_pending registered
  unlike := by
    rw [map_id_taken held]
    exact nodup_eraseDups ids
  entering := by
    intro o member
    obtain ⟨id, -, found⟩ := List.mem_filterMap.mp member
    exact (settled.nursery population source known).settled o (Population.mem_of_find? found)

/-! ## Transfers -/

theorem advances_harvested (e : Ecosystem) (ids : List OrganismId) (population : String)
    (strategy : Strategy) (now : Instant) :
    e.supply.Advances (e.harvested ids population strategy now).2.supply := by
  have enrolled := enrollAll_advances (e.target population strategy now) e.supply
    (takeAll e.habitat ids).1
  exact enrolled.trans (fill_advances e.nursery _ _ _ now _)

theorem Settled.harvested (settled : e.Settled limit)
    (room : (e.harvested ids population strategy now).2.supply.issued ≤ limit) :
    (e.harvested ids population strategy now).2.Settled limit := by
  have enrolled := enrollAll_advances (e.target population strategy now) e.supply
    (takeAll e.habitat ids).1
  have filled : (Nursery.enrollAll (e.target population strategy now) e.supply
      (takeAll e.habitat ids).1).2.2.Advances
        (e.harvested ids population strategy now).2.supply :=
    fill_advances e.nursery _ _ _ now _
  have together := (settled.target population strategy now).enrollAll settled.distinct
    (fun o member => settled.not_pending_taken member) (Nat.le_trans filled.issued room)
  have left : (takeAll e.habitat ids).2.Settled e.supply limit := by
    intro id r stored
    rw [(takeAll_isTaking e.habitat ids).residents] at stored
    split at stored
    · cases stored
    · exact settled.habitat id r stored
  exact {
    distinct := settled.distinct.of_advances (enrolled.trans filled)
    habitat := left.of_advances (enrolled.trans filled)
    nursery := (settled.nursery.of_advances enrolled).fill together
      (settled.distinct.of_advances enrolled) room }

theorem advances_released (e : Ecosystem) (population : String) (source : Population)
    (ids : List OrganismId) :
    e.supply.Advances (e.released population source ids).2.supply :=
  releaseEach_advances e.habitat source e.supply ids

theorem Settled.released (settled : e.Settled limit)
    (known : e.nursery.populations.find? population = some source)
    (held : ∀ id ∈ ids, source.contains id = true)
    (room : (e.released population source ids).2.supply.issued ≤ limit) :
    (e.released population source ids).2.Settled limit := by
  have together := settled.nursery population source known
  have advances := advances_released e population source ids
  obtain ⟨registered, after, last, walked, settlement, arrival⟩ :=
    releaseEach_eq together.ids together.normal (settled.canRelease known held) room
  unfold Ecosystem.released at room advances ⊢
  rw [walked] at room advances ⊢
  refine ⟨settled.distinct.of_advances advances, ?_, ?_⟩
  · -- a resident has just arrived or was there before
    intro id r stored
    rw [arrival.residents] at stored
    split at stored
    · rename_i o found
      cases stored
      have member := List.mem_of_find?_eq_some found
      have keyed : o.id = id := by simpa using List.find?_some found
      exact ⟨keyed, keyed ▸ settlement.not_pending (settled.canRelease known held) room member⟩
    · exact settled.habitat.of_advances advances id r stored
  · refine (settled.nursery.of_advances advances).put (AreSound.of_sublist ?_ List.filter_sublist)
    exact together.of_advances advances

/-! ## Requests -/

/-- A request only takes ids from the front of the supply. -/
theorem Effect.advances {α : Type} {request : Request α} {answer : α}
    (effect : e.Effect now request answer later) : e.supply.Advances later.supply := by
  cases effect with
  | register o => exact e.habitat.enroll_advances e.supply o
  | createPopulation created => exact Nursery.advances_of_createPopulation created
  | performSelection performed => exact Nursery.advances_of_performSelection performed
  | runCycle performed => exact Nursery.advances_of_runCycle performed
  | harvest population known =>
      exact advances_harvested e _ population _ now
  | @release population ids source => exact advances_released e population source ids
  | @releaseAll population source => exact advances_released e population source source.ids
  | _ => exact IdSupply.Advances.refl e.supply

/-- A request that leaves ids alone keeps an ecosystem settled, as long as it brings no id
that is still to be given out and the supply lasts. -/
theorem Settled.effect {α : Type} {request : Request α} {answer : α} (settled : e.Settled limit)
    (faithful : request.KeepsIds)
    (entering : ∀ o ∈ request.entering, ¬e.supply.Pending limit o.id)
    (effect : e.Effect now request answer later) (room : later.supply.issued ≤ limit) :
    later.Settled limit := by
  obtain ⟨distinct, habitat, nursery⟩ := settled
  cases effect with
  | register o =>
      have advances := e.habitat.enroll_advances e.supply o
      exact ⟨distinct.of_advances advances,
        habitat.enroll distinct (entering o (List.mem_singleton_self o)) room,
        nursery.of_advances advances⟩
  | @execute id r cycled outcome rng found drawn =>
      have same := (Organism.keptInCycles_id e.habitat.config now r.organism.id).cycle rfl
        ⟨e.habitat.rng, congrArg Prod.fst drawn⟩
      exact ⟨distinct, habitat.put_back found same, nursery⟩
  | @evolve id r evolved outcome rng found drawn =>
      have same : evolved.id = r.organism.id :=
        Organism.id_of_yields_evolve ⟨e.habitat.rng, congrArg Prod.fst drawn⟩
      exact ⟨distinct, Habitat.Settled.put_back habitat found same, nursery⟩
  | modify f found =>
      exact ⟨distinct, Habitat.Settled.put_back habitat found (faithful _), nursery⟩
  | remove => exact ⟨distinct, habitat.erase _, nursery⟩
  | removeNothing => exact ⟨distinct, habitat, nursery⟩
  | tick => exact ⟨distinct, habitat.tick now, nursery⟩
  | shutdown => exact ⟨distinct, habitat, nursery⟩
  | registerStrategy => exact ⟨distinct, habitat, nursery.of_populations rfl⟩
  | registerLandscape => exact ⟨distinct, habitat, nursery.of_populations rfl⟩
  | createPopulation created =>
      have advances := Nursery.advances_of_createPopulation created
      exact ⟨distinct.of_advances advances, habitat.of_advances advances,
        nursery.createPopulation distinct entering created room⟩
  | removePopulation => exact ⟨distinct, habitat, nursery.erase _⟩
  | performSelection performed =>
      have advances := Nursery.advances_of_performSelection performed
      exact ⟨distinct.of_advances advances, habitat.of_advances advances,
        nursery.performSelection distinct performed room⟩
  | runCycle performed =>
      have advances := Nursery.advances_of_runCycle performed
      exact ⟨distinct.of_advances advances, habitat.of_advances advances,
        nursery.runCycle distinct performed room⟩
  | harvest => exact Settled.harvested ⟨distinct, habitat, nursery⟩ room
  | release known held => exact Settled.released ⟨distinct, habitat, nursery⟩ known held room
  | @releaseAll population source known =>
      -- the removal behind the release only takes the population away
      have all : ∀ id ∈ source.ids, source.contains id = true :=
        fun id member => List.contains_iff_mem.mpr member
      have after := Settled.released ⟨distinct, habitat, nursery⟩ known all room
      exact ⟨after.distinct, after.habitat, after.nursery.erase _⟩

/-- A request that modifies no organism keeps an ecosystem sound, as long as it brings
no id that is still to be given out and the supply lasts. -/
theorem Sound.perform {α : Type} {request : Request α} {answer : α} (sound : e.Sound limit)
    (faithful : ¬request.Modifies)
    (entering : ∀ o ∈ request.entering, ¬e.supply.Pending limit o.id)
    (performed : e.perform now request = .ok (answer, later))
    (room : later.supply.issued ≤ limit) : later.Sound limit := by
  have effect := effect_of_perform performed
  have settled := sound.settled.effect (Request.keepsIds_of_not_modifies faithful) entering
    effect room
  refine settled.sound ?_
  exact Organism.isHereditary_isNormal.passes.effect sound.isNormal
    (Request.leads_of_not_modifies faithful) (fun _ _ => trivial) effect

/-- Every reachable ecosystem is sound. -/
theorem Reachable.sound (reachable : Reachable limit e) : e.Sound limit := by
  induction reachable with
  | founded c habitatSeed nurserySeed supply distinct =>
      exact sound_founded c habitatSeed nurserySeed distinct
  | step before faithful entering performed room inductionHypothesis =>
      exact inductionHypothesis.perform faithful entering performed room

end Ecosystem

end Vivarium
