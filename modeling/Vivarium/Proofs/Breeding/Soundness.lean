import Vivarium.Proofs.Breeding.Operation

/-!
# Sound populations and nurseries

Organisms are *sound together* when no two of them have one id, all are normal, and
no one has an id that is still to be given out.  Organisms may come to a population
under any ids but those; a cycle of selection keeps some of them and adds children
under fresh ids.  A nursery is sound when the organisms of each of its populations
are.

Main statements:

* `AreSound.append_fresh`: organisms come under fresh ids;
* `AreSound.enrollAll`, `fill`, `select`: what happens to one population;
* `Nursery.Sound.createPopulation`, `performSelection`, `runCycle`: the operations
  of a nursery that write populations.
-/

namespace Vivarium

/-- No two of the organisms have one id, all are normal, and no one has an id that is
still to be given out. -/
structure AreSound (organisms : List Organism) (supply : IdSupply) (limit : Nat) : Prop where
  ids : (organisms.map (·.id)).Nodup
  normal : ∀ o ∈ organisms, o.IsNormal
  settled : ∀ o ∈ organisms, ¬supply.Pending limit o.id

variable {supply later : IdSupply} {limit : Nat} {organisms arrived : List Organism}
  {p : Population}

/-! ## Organisms together -/

namespace AreSound

theorem nil (supply : IdSupply) (limit : Nat) : AreSound [] supply limit :=
  ⟨List.nodup_nil, List.forall_mem_nil _, List.forall_mem_nil _⟩

theorem of_advances (sound : AreSound organisms supply limit)
    (advances : supply.Advances later) : AreSound organisms later limit :=
  ⟨sound.ids, sound.normal,
    fun o member => IdSupply.not_pending_of_advances advances (sound.settled o member)⟩

/-- Fewer organisms are as sound as more. -/
theorem of_sublist (sound : AreSound organisms supply limit) {left : List Organism}
    (fewer : left.Sublist organisms) : AreSound left supply limit :=
  ⟨sound.ids.sublist (fewer.map _), fun o member => sound.normal o (fewer.subset member),
    fun o member => sound.settled o (fewer.subset member)⟩

theorem not_pending (sound : AreSound organisms supply limit) {id : OrganismId}
    (member : id ∈ organisms.map (·.id)) : ¬supply.Pending limit id := by
  obtain ⟨o, among, rfl⟩ := List.mem_map.mp member
  exact sound.settled o among

/-- Organisms come that are sound by themselves and have none of the ids held. -/
theorem append (sound : AreSound organisms supply limit) (others : AreSound arrived supply limit)
    (apart : ∀ o ∈ arrived, o.id ∉ organisms.map (·.id)) :
    AreSound (organisms ++ arrived) supply limit := by
  refine ⟨?_, List.forall_mem_append.mpr ⟨sound.normal, others.normal⟩,
    List.forall_mem_append.mpr ⟨sound.settled, others.settled⟩⟩
  rw [List.map_append, List.nodup_append]
  refine ⟨sound.ids, others.ids, ?_⟩
  rintro id before other after rfl
  obtain ⟨o, among, same⟩ := List.mem_map.mp after
  exact apart o among (same ▸ before)

/-- Normal organisms come under the next fresh ids. -/
theorem append_fresh (sound : AreSound organisms supply limit)
    (distinct : supply.DistinctUpTo limit)
    (ids : arrived.map (·.id) = supply.upcoming arrived.length)
    (normal : ∀ o ∈ arrived, o.IsNormal) (room : supply.issued + arrived.length ≤ limit) :
    AreSound (organisms ++ arrived) (supply.skip arrived.length) limit := by
  have fresh : ∀ o ∈ arrived, o.id ∈ supply.upcoming arrived.length := by
    intro o member
    rw [← ids]
    exact List.mem_map_of_mem member
  have others : AreSound arrived (supply.skip arrived.length) limit :=
    { ids := by
        rw [ids]
        exact IdSupply.nodup_upcoming distinct room
      normal := normal
      settled := fun o member => IdSupply.not_pending_skip distinct room (fresh o member) }
  refine (sound.of_advances (supply.advances_skip _)).append others ?_
  intro o member held
  exact sound.not_pending held ((IdSupply.mem_upcoming.mp (fresh o member)).mono room)

/-! ## One population -/

theorem enroll (sound : AreSound p.organisms supply limit) (distinct : supply.DistinctUpTo limit)
    {o : Organism} (entering : ¬supply.Pending limit o.id)
    (room : (p.enroll supply o).2.2.issued ≤ limit) :
    AreSound (p.enroll supply o).2.1.organisms (p.enroll supply o).2.2 limit := by
  obtain ⟨settled, middle, enters, enrolled⟩ := p.enroll_enters supply o
  rw [enrolled] at room ⊢
  have alone : AreSound [settled] middle limit :=
    { ids := List.pairwise_singleton _ _
      normal := List.forall_mem_singleton.mpr (enters.isNormal (Organism.isNormal_normalize o))
      settled := List.forall_mem_singleton.mpr (enters.not_pending distinct entering room) }
  exact (sound.of_advances enters.advances).append alone
    (List.forall_mem_singleton.mpr (enters.not_held (fun id => sound.not_pending) room))

theorem enrollAll (sound : AreSound p.organisms supply limit)
    (distinct : supply.DistinctUpTo limit)
    (entering : ∀ o ∈ arrived, ¬supply.Pending limit o.id)
    (room : (Nursery.enrollAll p supply arrived).2.2.issued ≤ limit) :
    AreSound (Nursery.enrollAll p supply arrived).2.1.organisms
      (Nursery.enrollAll p supply arrived).2.2 limit := by
  induction arrived generalizing p supply with
  | nil => exact sound
  | cons o rest inductionHypothesis =>
      obtain ⟨settled, middle, enters, enrolled⟩ := p.enroll_enters supply o
      simp only [Nursery.enrollAll, enrolled] at room ⊢
      have bounded := Nat.le_trans (enrollAll_advances _ middle rest).issued room
      have first := sound.enroll distinct (entering o List.mem_cons_self)
      rw [enrolled] at first
      exact inductionHypothesis (first bounded) (distinct.of_advances enters.advances)
        (fun x member => IdSupply.not_pending_of_advances enters.advances
          (entering x (List.mem_cons_of_mem _ member))) room

theorem fill (sound : AreSound p.organisms supply limit) (distinct : supply.DistinctUpTo limit)
    {n : Nursery} {seeds : List Organism} {size : Nat} {now : Instant}
    (room : (n.fill p seeds size now supply).2.2.issued ≤ limit) :
    AreSound (n.fill p seeds size now supply).1.organisms
      (n.fill p seeds size now supply).2.2 limit := by
  obtain ⟨clones, filling⟩ := fill_isFilling n distinct (fun id => sound.not_pending) room
  rw [filling.skipped] at room
  rw [filling.population, filling.skipped]
  refine sound.append_fresh distinct filling.ids ?_ room
  intro clone member
  obtain ⟨seed, -, kinship⟩ := filling.kinship clone member
  exact kinship.isNormal

/-- A cycle of selection keeps organisms of the population and adds children under
fresh ids. -/
theorem select (sound : AreSound p.organisms supply limit)
    (distinct : supply.DistinctUpTo limit) {config : NurseryConfig} {strategy : Strategy}
    {landscape : Landscape} {now : Instant} {rng : Rng}
    (room : (select config strategy landscape now p rng supply).supply.issued ≤ limit) :
    AreSound (select config strategy landscape now p rng supply).population.organisms
      (Vivarium.select config strategy landscape now p rng supply).supply limit := by
  by_cases empty : p.organisms = []
  · rw [select_of_nil empty]
    exact sound
  obtain ⟨skipped, children, selection⟩ :=
    select_isSelection config strategy landscape now rng supply empty
  rw [skipped, selection.offspring] at room ⊢
  rw [selection.organisms]
  have ranked : AreSound (rank landscape p.organisms) supply limit := by
    have order := selection.ranking.perm
    have scored : ∀ o ∈ rank landscape p.organisms, ∃ old ∈ p.organisms,
        old.scored landscape = o := by
      intro o member
      exact List.mem_map.mp (order.mem_iff.mp member)
    refine ⟨?_, ?_, ?_⟩
    · -- scoring leaves the ids alone, and a ranking only reorders them
      have sameIds : (p.organisms.map (·.scored landscape)).map (·.id) =
          p.organisms.map (·.id) := by
        rw [List.map_map]
        rfl
      rw [(order.map (·.id)).nodup_iff, sameIds]
      exact sound.ids
    · intro o member
      obtain ⟨old, among, rfl⟩ := scored o member
      exact Organism.isNormal_scored (sound.normal old among) landscape
    · intro o member
      obtain ⟨old, among, rfl⟩ := scored o member
      exact sound.settled old among
  refine (ranked.of_sublist (List.take_sublist _ _)).append_fresh distinct ?_ ?_ room
  · rw [selection.ids, selection.offspring]
  · intro child member
    obtain ⟨mother, among, father, -, kinship⟩ := selection.parents child member
    exact kinship.isNormal (ranked.normal mother (List.mem_of_mem_take among))

end AreSound

/-! ## Nurseries -/

namespace Nursery

/-- The organisms of each population are sound together. -/
def Sound (n : Nursery) (supply : IdSupply) (limit : Nat) : Prop :=
  ∀ name p, n.populations.find? name = some p → AreSound p.organisms supply limit

variable {n : Nursery} {name strategyName : String} {now : Instant}

theorem sound_founded (config : NurseryConfig) (rng : Rng) (supply : IdSupply) (limit : Nat) :
    (founded config rng).Sound supply limit := by
  intro name p found
  cases found

/-- Only the populations of a nursery count. -/
theorem Sound.of_populations (sound : n.Sound supply limit) {after : Nursery}
    (same : after.populations = n.populations) : after.Sound supply limit := by
  intro name p found
  rw [same] at found
  exact sound name p found

theorem Sound.of_advances (sound : n.Sound supply limit) (advances : supply.Advances later) :
    n.Sound later limit :=
  fun name p found => (sound name p found).of_advances advances

theorem Sound.put (sound : n.Sound supply limit) (together : AreSound p.organisms supply limit) :
    (n.put name p).Sound supply limit := by
  intro other q found
  rw [Nursery.put, Directory.find?_insert] at found
  split at found
  · cases found
    exact together
  · exact sound other q found

theorem Sound.erase (sound : n.Sound supply limit) (name : String) :
    ({ n with populations := n.populations.erase name } : Nursery).Sound supply limit := by
  intro other q found
  rw [Directory.find?_erase] at found
  split at found
  · cases found
  · exact sound other q found

/-- Filling writes no population of the nursery. -/
theorem Sound.of_filling (sound : n.Sound supply limit) {seeds clones : List Organism}
    {size : Nat} {filled : Population × Nursery × IdSupply}
    (filling : IsFilling n p seeds size now supply clones filled) :
    filled.2.1.Sound supply limit := by
  obtain ⟨rng, counters, history, same⟩ := filling.nursery
  rw [same]
  exact sound.of_populations rfl

/-- A new or filled population is put under its name. -/
theorem Sound.fill (sound : n.Sound supply limit) (together : AreSound p.organisms supply limit)
    (distinct : supply.DistinctUpTo limit) {seeds : List Organism} {size : Nat}
    (room : (n.fill p seeds size now supply).2.2.issued ≤ limit) :
    ((n.fill p seeds size now supply).2.1.put name (n.fill p seeds size now supply).1).Sound
      (n.fill p seeds size now supply).2.2 limit := by
  obtain ⟨clones, filling⟩ := fill_isFilling n distinct (fun id => together.not_pending) room
  have later := (sound.of_filling filling).of_advances (fill_advances n p seeds size now supply)
  exact later.put (together.fill distinct room)

theorem Sound.createPopulation {seeds : List Organism} {metrics : Vivarium.Metrics}
    {after : Nursery} (sound : n.Sound supply limit) (distinct : supply.DistinctUpTo limit)
    (entering : ∀ o ∈ seeds, ¬supply.Pending limit o.id)
    (created : n.createPopulation supply name seeds strategyName now =
      .ok (metrics, after, later)) (room : later.issued ≤ limit) :
    after.Sound later limit := by
  obtain ⟨strategy, -, -, -, -, rfl, rfl⟩ := of_createPopulation created
  let founded := Population.founded name strategy.name now
  have enrolled := enrollAll_advances founded supply seeds
  have filled : (enrollAll founded supply seeds).2.2.Advances
      (n.withNewPopulation supply name seeds strategy now).2.2 :=
    fill_advances n _ seeds strategy.populationSize now _
  have together : AreSound founded.organisms supply limit := AreSound.nil supply limit
  exact (sound.of_advances enrolled).fill
    (together.enrollAll distinct entering (Nat.le_trans filled.issued room))
    (distinct.of_advances enrolled) room

theorem Sound.performSelection {report : SelectionReport} {after : Nursery}
    (sound : n.Sound supply limit) (distinct : supply.DistinctUpTo limit)
    (performed : n.performSelection supply name strategyName now = .ok (report, after, later))
    (room : later.issued ≤ limit) : after.Sound later limit := by
  have advances := advances_of_performSelection performed
  obtain ⟨strategy, landscape, p, -, -, held, -, rfl, rfl⟩ := of_performSelection performed
  have together := (sound name p held).select distinct room
  exact ((sound.of_advances advances).put together).of_populations rfl

theorem Sound.runCycle {reports : List SelectionReport} {after : Nursery}
    (sound : n.Sound supply limit) (distinct : supply.DistinctUpTo limit)
    (performed : n.runCycle supply now = .ok (reports, after, later))
    (room : later.issued ≤ limit) : after.Sound later limit := by
  obtain ⟨-, last, -, selected, rfl⟩ := of_runCycle performed
  -- there was room all along if there is some in the end
  have kept := kept_of_selectAll
    (fun n reached => reached.issued ≤ limit → n.Sound reached limit ∧ reached.DistinctUpTo limit)
    (fun {_ _ _ _ _ _} before performed room => by
      have advances := advances_of_performSelection performed
      obtain ⟨sound, distinct⟩ := before (Nat.le_trans advances.issued room)
      exact ⟨sound.performSelection distinct performed room, distinct.of_advances advances⟩)
    (fun _ => ⟨sound, distinct⟩) selected
  exact (kept room).1.of_populations rfl

end Nursery

end Vivarium
