import Vivarium.Proofs.Breeding.Filling
import Vivarium.Proofs.Ecosystem.Heredity
import Vivarium.Proofs.Ecosystem.Identity

/-!
# There and back again

Organisms are harvested into a population that holds none of their ids, and released from it
at once.  On the way nobody gets another id: in the population nobody is in the way, and in
the habitat everybody's place is still free.  So all of them come back to where they were, and
nothing has been drawn for them that could not be drawn again.

They do not come back as if they had never been away.  Whoever leaves the habitat leaves the
mark of rest behind, and whoever is admitted anywhere is normalized.  The one shows on those
that were resting, the other on those that a function from outside has given values out of
range.

No fresh id has any part in this, so nothing is asked of the supply.

Main definitions:

* `Habitat.IsKeyed`: every organism is registered under its own id;
* `Ecosystem.Returned`: a habitat to which some of its organisms have come back;
* `Ecosystem.Restores`: transfers there and back leave no trace in the habitat.

Main statements:

* `Ecosystem.Course.keyed`: a course in which nobody's id is changed from outside;
* `Ecosystem.harvested_of_free`: the way there;
* `Ecosystem.release_of_append`: the way back, in the order in which they stand;
* `Ecosystem.returned_of_harvest`, `Ecosystem.transfer_and_back`: both ways.
-/

namespace Vivarium

/-- The first organism of an id is the one that is taken. -/
theorem Population.take?_of_append (p : Population) {o : Organism} {front behind : List Organism}
    (stand : p.organisms = front ++ o :: behind) (apart : o.id ∉ front.map (·.id)) :
    p.take? o.id = some (o, { p with organisms := front ++ behind }) := by
  have passed : ∀ x ∈ front, ¬decide (x.id = o.id) = true := by
    intro x member same
    exact apart (List.mem_map.mpr ⟨x, member, of_decide_eq_true same⟩)
  have found : p.find? o.id = some o := by
    rw [find?, stand, List.find?_append, List.find?_eq_none.mpr passed, Option.none_or]
    simp
  rw [take?, found, stand, List.eraseP_append_right _ passed]
  simp

/-! ## Organisms under their own ids -/

namespace Habitat

/-- Every organism is registered under its own id. -/
def IsKeyed (h : Habitat) : Prop :=
  ∀ id r, h.residents.find? id = some r → r.organism.id = id

namespace IsKeyed

variable {h after : Habitat} {id : OrganismId} {r : Resident}

/-- Only the residents of a habitat count. -/
theorem of_residents (keyed : h.IsKeyed) (same : after.residents = h.residents) :
    after.IsKeyed := by
  intro id r found
  rw [same] at found
  exact keyed id r found

theorem insert (keyed : h.IsKeyed) (own : r.organism.id = id)
    (residents : after.residents = h.residents.insert id r) : after.IsKeyed := by
  intro other found stored
  rw [residents, Directory.find?_insert] at stored
  split at stored
  · rename_i same
    cases stored
    exact own.trans same.symm
  · exact keyed other found stored

theorem enroll (keyed : h.IsKeyed) (supply : IdSupply) (o : Organism) :
    (h.enroll supply o).2.1.IsKeyed := by
  obtain ⟨settled, later, -, enrolled⟩ := h.enroll_enters supply o
  rw [enrolled]
  exact keyed.insert (r := ⟨settled, false⟩) rfl rfl

/-- Taking organisms away leaves the others under their ids. -/
theorem of_fewer (keyed : h.IsKeyed) {gone : List OrganismId}
    (residents : ∀ id, after.residents.find? id =
      if id ∈ gone then none else h.residents.find? id) : after.IsKeyed := by
  intro id r found
  rw [residents] at found
  split at found
  · cases found
  · exact keyed id r found

theorem tick (keyed : h.IsKeyed) (now : Instant) : (h.tick now).2.IsKeyed := by
  intro id r found
  obtain ⟨before, ⟨rng, report⟩, stored, visited⟩ := Directory.find?_traverse found
  rw [visited]
  exact (Organism.keptInCycles_id _ now id).cycle (keyed id before stored)
    (Draw.yields_run (before.cycle h.config now) rng)

theorem releaseEach (keyed : h.IsKeyed) (p : Population) (supply : IdSupply)
    (ids : List OrganismId) : (Ecosystem.releaseEach h p supply ids).2.1.IsKeyed := by
  induction ids generalizing h p supply with
  | nil => exact keyed
  | cons id rest inductionHypothesis =>
      unfold Ecosystem.releaseEach
      cases p.take? id with
      | none => exact inductionHypothesis keyed p supply
      | some pair => exact inductionHypothesis (keyed.enroll supply pair.1) pair.2 _

end IsKeyed

end Habitat

namespace Ecosystem

variable {e later : Ecosystem} {now : Instant}

/-- A request leaves every organism under its own id, unless a function from outside changes
one. -/
theorem Effect.keyed {α : Type} {request : Request α} {answer : α}
    (effect : e.Effect now request answer later) (faithful : request.KeepsIds)
    (keyed : e.habitat.IsKeyed) : later.habitat.IsKeyed := by
  cases effect with
  | register o => exact keyed.enroll e.supply o
  | @execute id r cycled outcome rng found drawn =>
      refine keyed.insert ?_ rfl
      exact (Organism.keptInCycles_id e.habitat.config now id).cycle (keyed id r found)
        ⟨e.habitat.rng, congrArg Prod.fst drawn⟩
  | @evolve id r evolved outcome rng found drawn =>
      refine keyed.insert ?_ rfl
      exact (Organism.id_of_yields_evolve ⟨e.habitat.rng, congrArg Prod.fst drawn⟩).trans
        (keyed id r found)
  | @modify id r f found => exact keyed.insert ((faithful r.organism).trans (keyed id r found)) rfl
  | @remove id =>
      have residents : ∀ other, (e.habitat.residents.erase id).find? other =
          if other ∈ [id] then none else e.habitat.residents.find? other := by
        intro other
        simp only [Directory.find?_erase, List.mem_singleton]
      exact keyed.of_fewer residents
  | removeNothing => exact keyed
  | tick => exact keyed.tick now
  | shutdown => exact keyed.of_residents rfl
  | registerStrategy => exact keyed
  | registerLandscape => exact keyed
  | createPopulation => exact keyed
  | removePopulation => exact keyed
  | performSelection => exact keyed
  | runCycle => exact keyed
  | @harvest ids => exact keyed.of_fewer (takeAll_isTaking e.habitat ids).residents
  | release => exact keyed.releaseEach _ e.supply _
  | releaseAll => exact keyed.releaseEach _ e.supply _

/-- In an ecosystem that was founded, every organism is registered under its own id as long as
no function from outside has changed the id of one. -/
theorem Course.keyed {c : Config} {habitatSeed nurserySeed : Nat} {supply : IdSupply}
    {exchanges : List Exchange} (course : Course (founded c habitatSeed nurserySeed supply)
      exchanges e) (faithful : ∀ x ∈ exchanges, x.request.KeepsIds) : e.habitat.IsKeyed := by
  refine Course.keeps (fun e => e.habitat.IsKeyed) course faithful ?_ ?_
  · intro id r found
    cases found
  · intro e later x answer keyed fitting granted effect
    exact effect.keyed fitting keyed

/-! ## The way back -/

/-- Organisms that stand one behind the other in a population, and for whom there is place in
the habitat, are released to it as they are. -/
theorem releaseEach_of_append {h : Habitat} {p : Population} {organisms : List Organism}
    (supply : IdSupply) {front behind : List Organism}
    (stand : p.organisms = front ++ (organisms ++ behind))
    (apart : ∀ o ∈ organisms, o.id ∉ front.map (·.id)) (unlike : (organisms.map (·.id)).Nodup)
    (normal : ∀ o ∈ organisms, o.IsNormal)
    (free : ∀ o ∈ organisms, h.contains o.id = false) :
    ∃ after left, releaseEach h p supply (organisms.map (·.id)) =
        (organisms, after, left, supply) ∧ IsArrival h organisms after := by
  induction organisms generalizing h p with
  | nil => exact ⟨h, p, rfl, IsArrival.nil h⟩
  | cons o rest inductionHypothesis =>
      obtain ⟨apartHere, apartOthers⟩ := List.forall_mem_cons.mp apart
      obtain ⟨normalHere, normalOthers⟩ := List.forall_mem_cons.mp normal
      obtain ⟨freeHere, freeOthers⟩ := List.forall_mem_cons.mp free
      obtain ⟨unlikeHere, unlikeOthers⟩ := List.nodup_cons.mp unlike
      rw [List.cons_append] at stand
      have taken := p.take?_of_append stand apartHere
      have enrolled : h.enroll supply o =
          (o, { h with residents := h.residents.insert o.id ⟨o, false⟩ }, supply) := by
        have own : ({ o with id := o.id } : Organism).normalize = o :=
          Organism.normalize_eq_self.mpr normalHere
        simp only [Habitat.enroll, freeHere, Bool.false_eq_true, if_false, own]
      have stillFree : ∀ x ∈ rest,
          ({ h with residents := h.residents.insert o.id ⟨o, false⟩ } : Habitat).contains x.id =
            false := by
        intro x member
        rw [← Bool.not_eq_true, Habitat.contains_insert]
        rintro (before | same)
        · rw [freeOthers x member] at before
          cases before
        · exact unlikeHere (List.mem_map.mpr ⟨x, member, same⟩)
      obtain ⟨after, left, walked, arrival⟩ := inductionHypothesis
        (p := { p with organisms := front ++ (rest ++ behind) })
        rfl apartOthers unlikeOthers normalOthers stillFree
      refine ⟨after, left, ?_, arrival.cons unlikeHere⟩
      simp only [List.map_cons, releaseEach, taken, enrolled, walked]

/-- Organisms that stand so in a population can be released from it, and arrive in the habitat. -/
theorem release_of_append {population : String} {source : Population}
    (held : e.nursery.populations.find? population = some source) {organisms : List Organism}
    {front behind : List Organism} (stand : source.organisms = front ++ (organisms ++ behind))
    (apart : ∀ o ∈ organisms, o.id ∉ front.map (·.id)) (unlike : (organisms.map (·.id)).Nodup)
    (normal : ∀ o ∈ organisms, o.IsNormal)
    (free : ∀ o ∈ organisms, e.habitat.contains o.id = false) :
    ∃ released later, e.release population (organisms.map (·.id)) = .ok (released, later) ∧
      IsArrival e.habitat organisms later.habitat := by
  obtain ⟨after, rest, walked, arrival⟩ :=
    releaseEach_of_append e.supply stand apart unlike normal free
  have members : ∀ id ∈ organisms.map (·.id), source.contains id = true := by
    intro id member
    refine List.contains_iff_mem.mpr ?_
    rw [Population.ids, stand, List.map_append, List.map_append]
    exact List.mem_append_right _ (List.mem_append_left _ member)
  have habitat : (e.released population source (organisms.map (·.id))).2.habitat = after :=
    congrArg (fun walk => walk.2.1) walked
  rw [← habitat] at arrival
  exact ⟨_, _, release_eq_ok.mpr ⟨source, held, members, rfl⟩, arrival⟩

/-- Among organisms that were looked up under their ids, each is found again. -/
theorem find?_filterMap {find : OrganismId → Option Organism} {ids : List OrganismId}
    (own : ∀ id ∈ ids, ∀ o, find id = some o → o.id = id) (id : OrganismId) :
    (ids.filterMap find).find? (fun o => o.id = id) = if id ∈ ids then find id else none := by
  induction ids with
  | nil => rfl
  | cons first rest inductionHypothesis =>
      obtain ⟨ownHere, ownOthers⟩ := List.forall_mem_cons.mp own
      have others := inductionHypothesis ownOthers
      cases found : find first with
      | none =>
          rw [List.filterMap_cons_none found, others]
          by_cases here : id = first
          · subst here
            rw [found, ite_self, ite_self]
          · simp only [List.mem_cons, here, false_or]
      | some o =>
          have named := ownHere o found
          rw [List.filterMap_cons_some found, List.find?_cons, named]
          by_cases here : first = id
          · subst here
            simp [found]
          · rw [decide_eq_false here, others]
            simp only [List.mem_cons, Ne.symm here, false_or]

/-- A habitat before some organisms went away, and after they have come back.  They are awake and
normalized, and everything else is as it was. -/
structure Returned (ids : List OrganismId) (h later : Habitat) : Prop where
  residents : ∀ id, later.residents.find? id =
    if id ∈ ids then (h.find? id).map fun o => ⟨o.normalize, false⟩ else h.residents.find? id
  others : later = { h with residents := later.residents }

namespace Returned

variable {ids : List OrganismId} {h later : Habitat}

theorem find? (returned : Returned ids h later) (id : OrganismId) :
    later.find? id = if id ∈ ids then (h.find? id).map (·.normalize) else h.find? id := by
  rw [Habitat.find?, returned.residents]
  split
  · rw [Option.map_map]
    rfl
  · rfl

/-- Nobody comes back resting. -/
theorem isResting (returned : Returned ids h later) (id : OrganismId) :
    later.isResting id = (h.isResting id && decide (id ∉ ids)) := by
  rw [Habitat.isResting, returned.residents]
  by_cases moved : id ∈ ids
  · cases found : h.find? id <;> simp [moved]
  · simp [moved, Habitat.isResting]

/-- It does not show that awake and normal organisms have been away. -/
theorem eq_of_awake (returned : Returned ids h later)
    (awake : ∀ id ∈ ids, h.isResting id = false ∧ ∀ o, h.find? id = some o → o.normalize = o) :
    later = h := by
  have same : later.residents = h.residents := by
    refine Directory.ext_of_find? Uuid.lt_irrefl ?_
    intro id
    rw [returned.residents]
    by_cases moved : id ∈ ids
    · obtain ⟨wakes, normal⟩ := awake id moved
      rw [if_pos moved]
      cases found : h.residents.find? id with
      | none => rw [Habitat.find?, found, Option.map_none, Option.map_none]
      | some r =>
          have there : h.find? id = some r.organism := by rw [Habitat.find?, found, Option.map_some]
          have unmarked : r.resting = false := by
            rw [Habitat.isResting, found] at wakes
            exact wakes
          rw [there, Option.map_some, normal r.organism there, ← unmarked]
    · rw [if_neg moved]
  rw [returned.others, same]

end Returned

/-- Organisms that were taken and arrive normalized have returned. -/
theorem returned_of_arrival {h left after : Habitat} {ids : List OrganismId}
    {taken : List Organism} (taking : IsTaking h ids taken left)
    (own : ∀ id ∈ ids, ∀ o, h.find? id = some o → o.id = id)
    (arrival : IsArrival left (taken.map (·.normalize)) after) : Returned ids h after where
  residents id := by
    have among := find?_filterMap (fun id member => own id (List.mem_eraseDups.mp member)) id
    rw [← taking.organisms] at among
    have back : (taken.map (·.normalize)).find? (fun o => o.id = id) =
        if id ∈ ids then (h.find? id).map (·.normalize) else none := by
      rw [List.find?_map]
      refine (congrArg (Option.map _) among).trans ?_
      simp only [List.mem_eraseDups]
      split <;> rfl
    rw [arrival.residents, back, taking.residents]
    by_cases moved : id ∈ ids
    · simp only [if_pos moved]
      cases h.find? id <;> rfl
    · simp only [if_neg moved]
  others := by rw [arrival.others, taking.others]

/-- A harvest of organisms of whose ids the population has none.  They stand there normalized and
under their own ids, behind those that were there and in front of any clones. -/
theorem harvested_of_free {ids : List OrganismId} {population : String}
    (registered : ∀ id ∈ ids, e.habitat.contains id = true)
    (own : ∀ id ∈ ids, ∀ o, e.habitat.find? id = some o → o.id = id) (strategy : Strategy)
    (now : Instant)
    (nobody : ∀ p, e.nursery.populations.find? population = some p →
      ∀ id ∈ ids, p.contains id = false) :
    let taken := takeAll e.habitat ids
    let harvest := e.harvested ids population strategy now
    harvest.1 = taken.1.map (·.id) ∧ harvest.2.habitat = taken.2 ∧
      ∃ source front behind, harvest.2.nursery.populations.find? population = some source ∧
        source.organisms = front ++ (taken.1.map (·.normalize) ++ behind) ∧
        ∀ o ∈ taken.1, o.id ∉ front.map (·.id) := by
  intro taken harvest
  have listed : taken.1.map (·.id) = ids.eraseDups := map_id_takeAll registered own
  have unlike : (taken.1.map (·.id)).Nodup := listed ▸ nodup_eraseDups ids
  have free : ∀ o ∈ taken.1, o.id ∉ (e.target population strategy now).ids := by
    intro o member there
    have among : o.id ∈ ids :=
      List.mem_eraseDups.mp (listed ▸ List.mem_map_of_mem (f := (·.id)) member)
    unfold target at there
    cases held : e.nursery.populations.find? population with
    | none =>
        rw [held] at there
        cases there
    | some p =>
        rw [held] at there
        have stranger := nobody p held o.id among
        exact absurd (List.contains_iff_mem.mpr there) (Bool.eq_false_iff.mp stranger)
  have enrolled : Nursery.enrollAll (e.target population strategy now) e.supply taken.1 =
      (taken.1.map (·.id), _, e.supply) := enrollAll_of_free unlike free
  obtain ⟨added, appended, -⟩ := fill_appends e.nursery
    (Nursery.enrollAll (e.target population strategy now) e.supply taken.1).2.1 taken.1
    (if (e.nursery.populations.find? population).isSome then 0 else strategy.populationSize) now
    (Nursery.enrollAll (e.target population strategy now) e.supply taken.1).2.2
  refine ⟨congrArg Prod.fst enrolled, rfl, _, _, added, Directory.find?_insert_self _ _ _, ?_,
    free⟩
  rw [← List.append_assoc]
  refine appended.trans ?_
  rw [enrolled]

/-- Organisms under their own ids that are harvested into a population with none of these ids
can be released from it at once, and have then returned. -/
theorem returned_of_harvest {ids moved : List OrganismId} {population strategyName : String}
    {between : Ecosystem}
    (performed : e.harvest ids population strategyName now = .ok (moved, between))
    (own : ∀ id ∈ ids, ∀ o, e.habitat.find? id = some o → o.id = id)
    (nobody : ∀ p, e.nursery.populations.find? population = some p →
      ∀ id ∈ ids, p.contains id = false) :
    moved = ids.eraseDups ∧ ∃ released later,
      between.release population moved = .ok (released, later) ∧
        Returned ids e.habitat later.habitat := by
  obtain ⟨strategy, known, registered, same⟩ := harvest_eq_ok.mp performed
  have taking := takeAll_isTaking e.habitat ids
  have listed := map_id_takeAll registered own
  obtain ⟨answer, left, source, front, behind, held, stand, apart⟩ :=
    harvested_of_free registered own strategy now nobody
  rw [← same] at answer left held
  dsimp only at answer left held
  generalize (takeAll e.habitat ids).1 = taken at *
  generalize (takeAll e.habitat ids).2 = remaining at *
  subst answer left
  -- the ids in the population are those that were taken
  have named : (taken.map (·.normalize)).map (·.id) = taken.map (·.id) := by
    rw [List.map_map]
    rfl
  have apartToo : ∀ o ∈ taken.map (·.normalize), o.id ∉ front.map (·.id) :=
    List.forall_mem_map.mpr apart
  have unlike : ((taken.map (·.normalize)).map (·.id)).Nodup := by
    rw [named, listed]
    exact nodup_eraseDups ids
  have normal : ∀ o ∈ taken.map (·.normalize), o.IsNormal :=
    List.forall_mem_map.mpr fun old _ => old.isNormal_normalize
  have free : ∀ o ∈ taken.map (·.normalize), between.habitat.contains o.id = false := by
    intro o member
    have among : o.id ∈ ids := by
      rw [← List.mem_eraseDups, ← listed, ← named]
      exact List.mem_map_of_mem member
    rw [Habitat.contains, Directory.contains_eq_false_iff, taking.residents, if_pos among]
  obtain ⟨released, later, performedBack, arrival⟩ :=
    release_of_append held stand apartToo unlike normal free
  rw [named] at performedBack
  exact ⟨listed, released, later, performedBack, returned_of_arrival taking own arrival⟩

/-! ## Courses -/

/-- **There and back again.**  Let organisms that are registered under their own ids be harvested
into a population that is new or has none of these ids.  The ids answered can be released from
it at once, and then the same organisms are registered under the same ids as before.  Those that
were listed have been normalized and rest no more; all others, their marks, and the rest of the
habitat are as they were.  So nothing has changed if those listed were awake and had no values
out of range.  Organisms have other ids than their own only if a function from outside has
changed one, and values out of range only if such a function does not keep values in range. -/
theorem transfer_and_back {c : Config} {habitatSeed nurserySeed : Nat} {supply : IdSupply}
    {exchanges : List Exchange}
    (course : Course (founded c habitatSeed nurserySeed supply) exchanges e) :
    ((∀ x ∈ exchanges, x.request.KeepsIds) →
      ∀ id o, e.habitat.find? id = some o → o.id = id) ∧
    ((∀ x ∈ exchanges, x.request.Leads Organism.IsNormal Organism.IsNormal) →
      ∀ id o, e.habitat.find? id = some o → o.normalize = o) ∧
    ∀ ids population strategyName now moved between,
      e.harvest ids population strategyName now = .ok (moved, between) →
      (∀ id ∈ ids, ∀ o, e.habitat.find? id = some o → o.id = id) →
      (∀ p, e.nursery.populations.find? population = some p →
        ∀ id ∈ ids, p.contains id = false) →
      ∃ released later, between.release population moved = .ok (released, later) ∧
        (∀ id, later.habitat.find? id =
          if id ∈ ids then (e.habitat.find? id).map (·.normalize) else e.habitat.find? id) ∧
        (∀ id, later.habitat.isResting id = (e.habitat.isResting id && decide (id ∉ ids))) ∧
        later.habitat = { e.habitat with residents := later.habitat.residents } ∧
        ((∀ id ∈ ids, e.habitat.isResting id = false ∧
            ∀ o, e.habitat.find? id = some o → o.normalize = o) →
          later.habitat = e.habitat) := by
  refine ⟨?_, ?_, ?_⟩
  · intro faithful id o found
    obtain ⟨r, stored, rfl⟩ := Option.map_eq_some_iff.mp found
    exact course.keyed faithful id r stored
  · intro moderate id o found
    obtain ⟨r, stored, rfl⟩ := Option.map_eq_some_iff.mp found
    have common : e.All Organism.IsNormal :=
      course.hereditary Organism.isHereditary_isNormal (All.founded _ _ _ _) moderate
        fun _ _ _ _ => trivial
    exact Organism.normalize_eq_self.mpr (common.habitat.of_find? stored)
  · intro ids population strategyName now moved between performed own nobody
    obtain ⟨-, released, later, performedBack, returned⟩ :=
      returned_of_harvest performed own nobody
    exact ⟨released, later, performedBack, returned.find?, returned.isResting, returned.others,
      returned.eq_of_awake⟩

/-- A function from outside that leaves an organism half of its energy. -/
def tire (o : Organism) : Organism := { o with state := { o.state with energy := 0.5 } }

/-- The newt is tired, harvested into a new pond by a list that has it twice, and released again. -/
theorem transfer_and_back_newt :
    let lair := (wasteland.registered newt).2.having ⟨0, 0⟩ (.modify newt.id tire)
    (lair.habitat.find? newt.id).map (·.state.energy) = some 0.5 ∧
      ∃ moved between released later,
        lair.harvest [newt.id, newt.id] "pond" "balanced" ⟨0, 0⟩ = .ok (moved, between) ∧
          between.release "pond" moved = .ok (released, later) ∧
          later.habitat = lair.habitat := by
  intro lair
  let registering := wasteland.asked ⟨0, 0⟩ (.register newt)
  let tiring := (wasteland.registered newt).2.asked ⟨0, 0⟩ (.modify newt.id tire)
  have course := (Course.start.step (wasteland.serves_asked ⟨0, 0⟩ (.register newt))).step
    ((wasteland.registered newt).2.serves_asked ⟨0, 0⟩ (.modify newt.id tire))
  have faithful : ∀ x ∈ [registering, tiring], x.request.KeepsIds :=
    List.forall_mem_cons.mpr ⟨trivial, List.forall_mem_singleton.mpr fun _ => rfl⟩
  obtain ⟨keyed, normal, restores⟩ := transfer_and_back course
  have moderate : ∀ o : Organism, o.IsNormal → (tire o).IsNormal := by
    intro o normal
    obtain ⟨consciousness, coherence, fitness, -⟩ := State.isNormal_iff.mp normal
    have half : clampUnit 0.5 = 0.5 := by decide +kernel
    exact State.isNormal_iff.mpr ⟨consciousness, coherence, fitness, half⟩
  have leads : ∀ x ∈ [registering, tiring],
      x.request.Leads Organism.IsNormal Organism.IsNormal :=
    List.forall_mem_cons.mpr ⟨trivial, List.forall_mem_singleton.mpr moderate⟩
  have registered : ∀ id ∈ [newt.id, newt.id], lair.habitat.contains id = true := by
    decide +kernel
  have performed : lair.harvest [newt.id, newt.id] "pond" "balanced" ⟨0, 0⟩ = .ok _ :=
    harvest_eq_ok.mpr ⟨Strategy.balanced, rfl, registered, rfl⟩
  have nobody : ∀ p, lair.nursery.populations.find? "pond" = some p →
      ∀ id ∈ [newt.id, newt.id], p.contains id = false := by
    intro p held
    cases held
  have awake : ∀ id ∈ [newt.id, newt.id], lair.habitat.isResting id = false := by decide +kernel
  obtain ⟨released, later, performedBack, -, -, -, same⟩ := restores _ _ _ _ _ _ performed
    (fun id _ => keyed faithful id) nobody
  refine ⟨by decide +kernel, _, _, released, later, performed, performedBack, same ?_⟩
  exact fun id member => ⟨awake id member, normal leads id⟩

/-- Whatever is harvested into a population that is new or has none of the ids listed, and is
released at once, leaves the organisms of the habitat and their marks as they were. -/
def Restores (e : Ecosystem) : Prop :=
  ∀ ids population strategyName now moved between released later,
    e.harvest ids population strategyName now = .ok (moved, between) →
    (∀ p, e.nursery.populations.find? population = some p → ∀ id ∈ ids, p.contains id = false) →
    between.release population moved = .ok (released, later) →
    ∀ id, later.habitat.find? id = e.habitat.find? id ∧
      later.habitat.isResting id = e.habitat.isResting id

/-- Whoever is restored after a harvest into a new population was awake and had no values out of
range. -/
theorem Restores.of_new (restores : e.Restores) {population strategyName : String}
    {strategy : Strategy} (new : e.nursery.populations.find? population = none)
    (known : e.nursery.strategies.find? strategyName = some strategy) (id : OrganismId)
    (own : (e.habitat.find? id).map (·.id) = some id) :
    (e.habitat.find? id).map (·.normalize) = e.habitat.find? id ∧
      e.habitat.isResting id = false := by
  obtain ⟨o, found, named⟩ := Option.map_eq_some_iff.mp own
  have registered : ∀ x ∈ [id], e.habitat.contains x = true :=
    List.forall_mem_singleton.mpr (Habitat.contains_iff_find?.mpr ⟨o, found⟩)
  have performed : e.harvest [id] population strategyName ⟨0, 0⟩ = .ok _ :=
    harvest_eq_ok.mpr ⟨strategy, known, registered, rfl⟩
  have nobody : ∀ p, e.nursery.populations.find? population = some p →
      ∀ x ∈ [id], p.contains x = false := by
    intro p held
    cases held.symm.trans new
  have ownToo : ∀ x ∈ [id], ∀ other, e.habitat.find? x = some other → other.id = x := by
    refine List.forall_mem_singleton.mpr ?_
    intro other there
    rwa [← Option.some.inj (found.symm.trans there)]
  obtain ⟨-, released, later, performedBack, returned⟩ :=
    returned_of_harvest performed ownToo nobody
  obtain ⟨same, marked⟩ := restores _ _ _ _ _ _ _ _ performed nobody performedBack id
  rw [returned.find?, if_pos (List.mem_singleton_self id)] at same
  rw [returned.isResting] at marked
  exact ⟨same, by simpa using marked⟩

/-- The weary newt in a lair rests after a tick, or it is given more energy than there is, or
another id.  None of the three lairs is restored. -/
theorem not_restores_lair :
    let lair := (wasteland.registered weary).2
    let resting := lair.having ⟨0, 0⟩ .tick
    let swollen := lair.having ⟨0, 0⟩
      (.modify newt.id fun o => { o with state := { o.state with energy := 2.0 } })
    let renamed := lair.having ⟨0, 0⟩ (.modify newt.id fun o => { o with id := ⟨7⟩ })
    ((∃ exchanges, Course wasteland exchanges resting) ∧ ¬resting.Restores) ∧
      ((∃ exchanges, Course wasteland exchanges swollen) ∧ ¬swollen.Restores) ∧
      (∃ exchanges, Course wasteland exchanges renamed) ∧ ¬renamed.Restores := by
  intro lair resting swollen renamed
  have course := Course.start.step (wasteland.serves_asked ⟨0, 0⟩ (.register weary))
  have known : wasteland.nursery.strategies.find? "balanced" = some Strategy.balanced := rfl
  have new : wasteland.nursery.populations.find? "pond" = none := rfl
  refine ⟨⟨⟨_, course.step (lair.serves_asked _ _)⟩, ?_⟩,
    ⟨⟨_, course.step (lair.serves_asked _ _)⟩, ?_⟩, ⟨_, course.step (lair.serves_asked _ _)⟩, ?_⟩
  · intro restores
    have awake := (restores.of_new new known newt.id (by decide +kernel)).2
    exact absurd awake (by decide +kernel)
  · intro restores
    have normal := (restores.of_new new known newt.id (by decide +kernel)).1
    exact absurd normal (by decide +kernel)
  · intro restores
    -- the newt comes back under the id that it was given
    let harvest := renamed.harvested [newt.id] "pond" Strategy.balanced ⟨0, 0⟩
    have performed : renamed.harvest [newt.id] "pond" "balanced" ⟨0, 0⟩ = .ok harvest :=
      harvest_eq_ok.mpr ⟨Strategy.balanced, known, by decide +kernel, rfl⟩
    obtain ⟨source, held⟩ :
        ∃ source, harvest.2.nursery.populations.find? "pond" = some source :=
      ⟨_, Directory.find?_insert_self _ _ _⟩
    have back : (harvest.2.nursery.populations.find? "pond").any (fun p =>
        decide (∀ id ∈ harvest.1, p.contains id = true) &&
          ((harvest.2.released "pond" p harvest.1).2.habitat.find? newt.id).isNone) = true := by
      decide +kernel
    rw [held, Option.any_some, Bool.and_eq_true, decide_eq_true_iff] at back
    obtain ⟨members, missing⟩ := back
    have same := (restores _ _ _ _ _ _ _ _ performed (fun p impossible => nomatch impossible)
      (release_eq_ok.mpr ⟨source, held, members, rfl⟩) newt.id).1
    exact absurd ((Option.isNone_iff_eq_none.mp missing).symm.trans same) (by decide +kernel)

end Ecosystem

end Vivarium
