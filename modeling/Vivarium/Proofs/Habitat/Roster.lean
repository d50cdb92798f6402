import Mathlib.Data.Finset.Card
import Vivarium.Proofs.Habitat.Soundness
import Vivarium.Proofs.Organism.Cycle

/-!
# Rosters

A habitat marks those of its residents that rest.  One may as well list the organisms by id
and, apart from them, the ids of all who rest; then every operation has to see to it that
nobody rests who is not there.  This is how a roster is kept.

Each operation on a roster is told as it is carried out: an arrival does not look at the
resting ids, a departure strikes the id from both lists, and a cycle puts the id on the list
or strikes it off.  None of them makes sure that the lists fit together.  That they do is
shown here, by showing that a roster keeps the residents of a habitat with their marks.  It
relies on one thing only: that a fresh id is not registered already.

Main definitions:

* `Roster`: organisms by id, and the ids of those that rest;
* `Roster.enroll`, `take`, `change`, `execute`, `tick`: the operations;
* `Roster.Keeps`: the roster of a habitat.

Main statements:

* `Roster.Keeps.enroll`, `take`, `change`, `execute`, `tick`: what is done to both;
* `Roster.Keeps.length_restingIds`, `card_resting_le`: how many rest.
-/

namespace Vivarium

/-- Organisms by id, and the ids of those that rest. -/
structure Roster where
  organisms : Directory OrganismId Organism
  resting : Finset OrganismId

namespace Roster

/-- The roster of nobody. -/
def empty : Roster := ⟨Directory.empty, ∅⟩

/-! ## Operations -/

/-- The roster with one more organism, normalized, under its own id or under a fresh one if
that is taken. -/
def enroll (s : Roster) (supply : IdSupply) (o : Organism) : Organism × Roster × IdSupply :=
  let (id, supply) := if s.organisms.contains o.id then supply.next else (o.id, supply)
  let registered := { o with id := id }.normalize
  (registered, { s with organisms := s.organisms.insert id registered }, supply)

/-- The roster without an id. -/
def take (s : Roster) (id : OrganismId) : Roster :=
  ⟨s.organisms.erase id, s.resting.erase id⟩

/-- The roster with another organism under an id. -/
def put (s : Roster) (id : OrganismId) (o : Organism) : Roster :=
  { s with organisms := s.organisms.insert id o }

/-- The roster with a registered organism changed by a function. -/
def change (s : Roster) (id : OrganismId) (f : Organism → Organism) : Roster :=
  match s.organisms.find? id with
  | some o => s.put id (f o)
  | none => s

/-- A cycle of the organism under an id, the ids of those that rest afterwards, and what the
cycle came to. -/
def cycle (config : HabitatConfig) (now : Instant) (resting : Finset OrganismId)
    (id : OrganismId) (o : Organism) : Draw ((Organism × Finset OrganismId) × CycleOutcome) := do
  if id ∈ resting ∨ o.state.energy ≤ config.energyFloor then
    let rested := o.regenerate config
    if config.resumeEnergy ≤ rested.state.energy then
      return ((rested, resting.erase id), .resumed)
    else return ((rested, insert id resting), .resting)
  else
    let (ticked, evolved) ← o.tick config now
    match evolved with
    | some evolved => return ((ticked, resting), .ticked evolved)
    | none => return ((ticked.recover config, resting), .failed)

/-- The roster after a cycle of the organism under an id. -/
def execute (s : Roster) (config : HabitatConfig) (now : Instant) (rng : Rng) (id : OrganismId) :
    Roster :=
  match s.organisms.find? id with
  | some o =>
      let (cycled, resting) := ((cycle config now s.resting id o).run rng).1.1
      ⟨s.organisms.insert id cycled, resting⟩
  | none => s

/-- One organism's share in a cycle of all, with the ids of those that rest so far. -/
def visit (config : HabitatConfig) (now : Instant) (id : OrganismId) (o : Organism)
    (reached : Finset OrganismId × Rng × TickReport) :
    Organism × (Finset OrganismId × Rng × TickReport) :=
  let ((cycled, outcome), rng) := (cycle config now reached.1 id o).run reached.2.1
  (cycled.1, (cycled.2, rng, reached.2.2.add outcome))

/-- The roster after a cycle of all organisms in ascending order of their ids. -/
def tick (s : Roster) (config : HabitatConfig) (now : Instant) (rng : Rng) : Roster :=
  let visited := s.organisms.traverse (visit config now) (s.resting, rng, TickReport.empty)
  ⟨visited.1, visited.2.1⟩

/-! ## Cycles apart from a habitat -/

variable {config : HabitatConfig} {now : Instant}

/-- A cycle puts the id itself on the list or strikes it off, and no other one. -/
theorem mem_cycle {resting : Finset OrganismId} {id other : OrganismId} (elsewhere : other ≠ id)
    (o : Organism) (rng : Rng) :
    other ∈ ((cycle config now resting id o).run rng).1.1.2 ↔ other ∈ resting := by
  unfold cycle
  split
  · dsimp only
    split
    · show other ∈ resting.erase id ↔ other ∈ resting
      rw [Finset.mem_erase]
      exact and_iff_right elsewhere
    · show other ∈ insert id resting ↔ other ∈ resting
      rw [Finset.mem_insert]
      exact or_iff_right elsewhere
  · generalize drawn : (o.tick config now).run rng = result
    obtain ⟨⟨ticked, evolved⟩, later⟩ := result
    simp only [StateT.run_bind, drawn]
    cases evolved with
    | none => exact Iff.rfl
    | some evolved => exact Iff.rfl

/-- A cycle of an organism on the list is the cycle of a resident with a mark. -/
theorem run_cycle (resting : Finset OrganismId) (id : OrganismId) (o : Organism) (rng : Rng) :
    ((⟨o, decide (id ∈ resting)⟩ : Resident).cycle config now).run rng =
      let cycled := (cycle config now resting id o).run rng
      ((⟨cycled.1.1.1, decide (id ∈ cycled.1.1.2)⟩, cycled.1.2), cycled.2) := by
  have rests : (⟨o, decide (id ∈ resting)⟩ : Resident).needsRest config = true ↔
      id ∈ resting ∨ o.state.energy ≤ config.energyFloor := by
    rw [Resident.needsRest, Bool.or_eq_true, decide_eq_true_eq, decide_eq_true_eq]
  unfold Resident.cycle cycle
  by_cases tired : id ∈ resting ∨ o.state.energy ≤ config.energyFloor
  · rw [if_pos (rests.mpr tired), if_pos tired]
    unfold Resident.rest
    dsimp only
    split
    · show _ = (((⟨o.regenerate config, decide (id ∈ resting.erase id)⟩ : Resident),
        CycleOutcome.resumed), rng)
      rw [decide_eq_false (Finset.notMem_erase id resting)]
      rfl
    · show _ = (((⟨o.regenerate config, decide (id ∈ insert id resting)⟩ : Resident),
        CycleOutcome.resting), rng)
      rw [decide_eq_true (Finset.mem_insert_self id resting)]
      rfl
  · rw [if_neg (mt rests.mp tired), if_neg tired]
    generalize drawn : (o.tick config now).run rng = result
    obtain ⟨⟨ticked, evolved⟩, later⟩ := result
    simp only [StateT.run_bind, drawn]
    cases evolved with
    | none => rfl
    | some evolved => rfl

theorem visit_eq (id : OrganismId) (o : Organism) (resting : Finset OrganismId) (rng : Rng)
    (report : TickReport) :
    Habitat.visit config now id ⟨o, decide (id ∈ resting)⟩ (rng, report) =
      let visited := visit config now id o (resting, rng, report)
      (⟨visited.1, decide (id ∈ visited.2.1)⟩, visited.2.2) := by
  unfold Habitat.visit
  rw [run_cycle]
  rfl

/-- A cycle of all keeps to the order of the ids, and so draws the same.  An id that is still
to be visited rests if it rested at first. -/
theorem traverseEntries_visit (config : HabitatConfig) (now : Instant)
    (entries : List (OrganismId × Organism)) (unlike : (entries.map (·.1)).Nodup)
    (resting : Finset OrganismId) (rng : Rng) (report : TickReport) :
    let marked := Directory.traverseEntries (Habitat.visit config now)
      (entries.map fun entry => (entry.1, ⟨entry.2, decide (entry.1 ∈ resting)⟩)) (rng, report)
    let kept := Directory.traverseEntries (visit config now) entries (resting, rng, report)
    marked.1 = kept.1.map (fun entry => (entry.1, ⟨entry.2, decide (entry.1 ∈ kept.2.1)⟩)) ∧
      ∀ other, other ∉ entries.map (·.1) → (other ∈ kept.2.1 ↔ other ∈ resting) := by
  induction entries generalizing resting rng report with
  | nil => exact ⟨rfl, fun _ _ => Iff.rfl⟩
  | cons entry rest inductionHypothesis =>
      obtain ⟨id, o⟩ := entry
      obtain ⟨apart, unlike⟩ := List.nodup_cons.mp unlike
      let reached := (visit config now id o (resting, rng, report)).2
      have others : ∀ other, other ≠ id → (other ∈ reached.1 ↔ other ∈ resting) :=
        fun other elsewhere => mem_cycle elsewhere o rng
      obtain ⟨same, stays⟩ := inductionHypothesis unlike reached.1 reached.2.1 reached.2.2
      -- whoever is visited later is still marked as before
      have marks : (rest.map fun entry =>
          (entry.1, (⟨entry.2, decide (entry.1 ∈ resting)⟩ : Resident))) =
            rest.map fun entry => (entry.1, ⟨entry.2, decide (entry.1 ∈ reached.1)⟩) := by
        refine List.map_congr_left ?_
        intro entry member
        have elsewhere : entry.1 ≠ id := fun here =>
          apart (List.mem_map.mpr ⟨entry, member, here⟩)
        simp only [others entry.1 elsewhere]
      constructor
      · simp only [List.map_cons, Directory.traverseEntries, visit_eq]
        rw [marks]
        refine congrArg₂ List.cons ?_ same
        exact congrArg (fun mark => (id, (⟨_, mark⟩ : Resident)))
          (decide_eq_decide.mpr (stays id apart).symm)
      · intro other unlisted
        obtain ⟨elsewhere, later⟩ := not_or.mp (mt List.mem_cons.mpr unlisted)
        exact (stays other later).trans (others other elsewhere)

/-! ## The roster of a habitat -/

/-- The roster of a habitat has its organisms, and the ids of those that are marked.  Nobody
rests who is not registered. -/
structure Keeps (s : Roster) (h : Habitat) : Prop where
  residents : ∀ id, h.residents.find? id =
    (s.organisms.find? id).map fun o => ⟨o, decide (id ∈ s.resting)⟩
  registered : ∀ id ∈ s.resting, s.organisms.contains id = true

theorem keeps_founded (config : HabitatConfig) (rng : Rng) :
    empty.Keeps (Habitat.founded config rng) :=
  ⟨fun _ => rfl, fun _ resting => absurd resting (Finset.notMem_empty _)⟩

namespace Keeps

variable {s : Roster} {h : Habitat} {id : OrganismId} {config : HabitatConfig} {now : Instant}

/-- Only the residents of a habitat count. -/
theorem of_residents {after : Habitat} (keeps : s.Keeps h) (same : after.residents = h.residents) :
    s.Keeps after := by
  refine ⟨?_, keeps.registered⟩
  rw [same]
  exact keeps.residents

theorem find? (keeps : s.Keeps h) (id : OrganismId) : s.organisms.find? id = h.find? id := by
  rw [Habitat.find?, keeps.residents, Option.map_map]
  exact Option.map_id'.symm

theorem find?_eq_none (keeps : s.Keeps h) (missing : h.residents.find? id = none) :
    s.organisms.find? id = none :=
  Option.map_eq_none_iff.mp ((keeps.residents id).symm.trans missing)

theorem contains (keeps : s.Keeps h) (id : OrganismId) :
    s.organisms.contains id = h.contains id := by
  rw [Habitat.contains, Directory.contains, Directory.contains, keeps.residents, Option.isSome_map]

theorem isResting (keeps : s.Keeps h) (id : OrganismId) :
    id ∈ s.resting ↔ h.isResting id = true := by
  rw [Habitat.isResting, keeps.residents]
  constructor
  · intro rests
    obtain ⟨o, found⟩ := Directory.contains_iff.mp (keeps.registered id rests)
    rw [found]
    exact decide_eq_true rests
  · intro marked
    cases found : s.organisms.find? id with
    | none =>
        rw [found] at marked
        cases marked
    | some o =>
        rw [found] at marked
        exact of_decide_eq_true marked

/-! ## One organism -/

/-- An organism is put under an id, and the list of those that rest is revised for this id
alone. -/
theorem revise (keeps : s.Keeps h) (id : OrganismId) (o : Organism) {resting : Finset OrganismId}
    (others : ∀ other, other ≠ id → (other ∈ resting ↔ other ∈ s.resting)) :
    (⟨s.organisms.insert id o, resting⟩ : Roster).Keeps (h.put id ⟨o, decide (id ∈ resting)⟩) := by
  constructor
  · intro other
    show (h.residents.insert id _).find? other = ((s.organisms.insert id o).find? other).map _
    rw [Directory.find?_insert, Directory.find?_insert]
    split
    · rename_i here
      subst here
      rfl
    · rename_i elsewhere
      rw [keeps.residents]
      simp only [others other elsewhere]
  · intro other rests
    show (s.organisms.insert id o).contains other = true
    rw [Directory.contains, Directory.find?_insert]
    split
    · rfl
    · rename_i elsewhere
      exact keeps.registered other ((others other elsewhere).mp rests)

/-- A resident is one of the organisms, with its mark. -/
theorem of_find? (keeps : s.Keeps h) {r : Resident} (found : h.residents.find? id = some r) :
    ∃ o, s.organisms.find? id = some o ∧ r = ⟨o, decide (id ∈ s.resting)⟩ := by
  obtain ⟨o, stored, same⟩ := Option.map_eq_some_iff.mp ((keeps.residents id).symm.trans found)
  exact ⟨o, stored, same.symm⟩

/-- An organism that is changed does not begin or cease to rest. -/
theorem change (keeps : s.Keeps h) {r : Resident} (found : h.residents.find? id = some r)
    (f : Organism → Organism) :
    (s.change id f).Keeps (h.put id { r with organism := f r.organism }) := by
  obtain ⟨o, stored, rfl⟩ := keeps.of_find? found
  simp only [Roster.change, stored]
  exact keeps.revise id (f o) fun _ _ => Iff.rfl

/-- Whoever leaves is struck from both lists. -/
theorem take (keeps : s.Keeps h) (id : OrganismId) :
    (s.take id).Keeps { h with residents := h.residents.erase id } := by
  constructor
  · intro other
    show (h.residents.erase id).find? other = ((s.organisms.erase id).find? other).map _
    rw [Directory.find?_erase, Directory.find?_erase]
    by_cases here : other = id
    · rw [if_pos here, if_pos here]
      rfl
    · rw [if_neg here, if_neg here, keeps.residents]
      simp only [Roster.take, Finset.mem_erase, ne_eq, here, not_false_eq_true, true_and]
  · intro other rests
    obtain ⟨elsewhere, rested⟩ := Finset.mem_erase.mp rests
    show (s.organisms.erase id).contains other = true
    rw [Directory.contains, Directory.find?_erase, if_neg elsewhere]
    exact keeps.registered other rested

theorem enroll_eq (keeps : s.Keeps h) (supply : IdSupply) (o : Organism) :
    s.enroll supply o =
      ((h.enroll supply o).1,
        s.put (h.enroll supply o).1.id (h.enroll supply o).1, (h.enroll supply o).2.2) := by
  unfold Roster.enroll Habitat.enroll
  rw [keeps.contains]
  rfl

/-- Whoever arrives is awake, since an id that is free does not rest. -/
theorem enroll (keeps : s.Keeps h) {supply : IdSupply} {o : Organism}
    (free : h.contains (h.enroll supply o).1.id = false) :
    (s.enroll supply o).2.1.Keeps (h.enroll supply o).2.1 := by
  obtain ⟨settled, later, -, enrolled⟩ := h.enroll_enters supply o
  rw [keeps.enroll_eq]
  rw [enrolled] at free ⊢
  have awake : settled.id ∉ s.resting := by
    intro rests
    have registered := keeps.registered settled.id rests
    rw [keeps.contains, free] at registered
    cases registered
  have revised := keeps.revise settled.id settled fun _ _ => Iff.rfl
  rw [decide_eq_false awake] at revised
  exact revised

/-! ## Cycles -/

/-- A cycle of one organism keeps all other ids where they are. -/
theorem execute (keeps : s.Keeps h) {r cycled : Resident} {outcome : CycleOutcome}
    {rng : Rng} (found : h.residents.find? id = some r)
    (drawn : (r.cycle h.config now).run h.rng = ((cycled, outcome), rng)) :
    (s.execute h.config now h.rng id).Keeps (h.put id cycled) := by
  obtain ⟨o, stored, rfl⟩ := keeps.of_find? found
  rw [run_cycle] at drawn
  cases drawn
  simp only [Roster.execute, stored]
  exact keeps.revise id _ fun other elsewhere => mem_cycle elsewhere o h.rng

theorem residents_eq (keeps : s.Keeps h) :
    h.residents = s.organisms.mapValues fun id o => ⟨o, decide (id ∈ s.resting)⟩ := by
  refine Directory.ext_of_find? Uuid.lt_irrefl ?_
  intro id
  rw [Directory.find?_mapValues]
  exact keeps.residents id

theorem tick (keeps : s.Keeps h) (now : Instant) :
    (s.tick h.config now h.rng).Keeps (h.tick now).2 := by
  have unlike := Directory.nodup_keys Uuid.lt_irrefl s.organisms
  obtain ⟨same, others⟩ := traverseEntries_visit h.config now s.organisms.entries unlike
    s.resting h.rng TickReport.empty
  constructor
  · intro id
    have walked : (h.tick now).2.residents =
        (s.tick h.config now h.rng).organisms.mapValues fun id o =>
          ⟨o, decide (id ∈ (s.tick h.config now h.rng).resting)⟩ := by
      refine Directory.ext ?_
      show (Directory.traverseEntries (Habitat.visit h.config now) h.residents.entries _).1 = _
      rw [keeps.residents_eq]
      exact same
    rw [walked, Directory.find?_mapValues]
  · intro id rests
    have sameKeys : (s.tick h.config now h.rng).organisms.keys = s.organisms.keys :=
      Directory.keys_traverseEntries _ s.organisms.entries _
    rw [Directory.contains_iff_mem_keys, sameKeys]
    by_contra unlisted
    have before := keeps.registered id ((others id unlisted).mp rests)
    exact unlisted (Directory.contains_iff_mem_keys.mp before)

/-! ## How many rest -/

theorem size (keeps : s.Keeps h) : h.residents.size = s.organisms.size := by
  rw [keeps.residents_eq]
  exact List.length_map _

theorem restingIds (keeps : s.Keeps h) :
    h.restingIds = s.organisms.keys.filter fun id => id ∈ s.resting := by
  rw [Habitat.restingIds, keeps.residents_eq]
  show ((s.organisms.entries.map _).filter _).map _ = (s.organisms.entries.map _).filter _
  rw [List.filter_map, List.filter_map, List.map_map]
  rfl

theorem length_restingIds (keeps : s.Keeps h) : h.restingIds.length = s.resting.card := by
  have unlike := Directory.nodup_keys Uuid.lt_irrefl s.organisms
  rw [keeps.restingIds, ← List.toFinset_card_of_nodup (unlike.filter _)]
  refine congrArg Finset.card (Finset.ext fun id => ?_)
  rw [List.mem_toFinset, List.mem_filter, decide_eq_true_eq]
  refine and_iff_right_of_imp ?_
  intro rests
  exact Directory.contains_iff_mem_keys.mp (keeps.registered id rests)

/-- No more rest than there are. -/
theorem card_resting_le (keeps : s.Keeps h) : s.resting.card ≤ s.organisms.size := by
  calc
    s.resting.card = (s.organisms.keys.filter fun id => id ∈ s.resting).length := by
      rw [← keeps.length_restingIds, keeps.restingIds]
    _ ≤ s.organisms.keys.length := List.length_filter_le _ _
    _ = s.organisms.size := List.length_map _

end Keeps

end Roster

end Vivarium
