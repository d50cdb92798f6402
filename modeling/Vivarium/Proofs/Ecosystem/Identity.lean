import Vivarium.Proofs.Ecosystem.Course
import Vivarium.Proofs.Ecosystem.Transfer
import Vivarium.Proofs.Habitat.Roster

/-!
# Identities and rest

An id belongs to one organism of the habitat, and to one organism of each population.  The
habitat has its residents under their own ids, and nobody rests who is not registered.  All
this holds whatever is asked of an ecosystem, also if organisms are modified from outside as
long as they keep their ids.

That nobody rests who is not registered is said of the roster that is kept along with the
habitat.  Every request is carried out on the roster too, which checks it by itself and looks
only at the parts of the ecosystem that are not the habitat's residents.  So a request that
fails is one that the roster turns down as well.

Main definitions:

* `Roster.serve`: what a request does to a roster;
* `Ecosystem.Accompanied`: an ecosystem after a course, with the roster kept along;
* `Population.IsAlone`: an id that belongs to one organism of a population.

Main statements:

* `Roster.Keeps.serve`, `serve_of_error`: one request that succeeds, and one that fails;
* `Ecosystem.identities_and_rest`: ids and resting organisms after a course.
-/

namespace Vivarium

/-! ## Populations -/

namespace Population

/-- The id belongs to this organism of a population and to no other one: it is found and
taken under the id, and all others are left. -/
structure IsAlone (p : Population) (id : OrganismId) (o : Organism) : Prop where
  member : o ∈ p.organisms
  only : ∀ other ∈ p.organisms, other.id = id ↔ other = o
  contains : p.contains id = true
  found : p.find? id = some o
  taken : p.take? id = some (o, p.without [id])
  left : (p.without [id]).contains id = false

theorem isAlone {p : Population} (unlike : p.ids.Nodup) {o : Organism} (member : o ∈ p.organisms) :
    p.IsAlone o.id o := by
  have only : ∀ other ∈ p.organisms, other.id = o.id ↔ other = o := by
    intro other among
    exact ⟨List.inj_on_of_nodup_map unlike among member, congrArg _⟩
  obtain ⟨held, found⟩ : ∃ held, p.find? o.id = some held := by
    rw [← contains_iff_find?]
    exact List.contains_iff_mem.mpr (List.mem_map_of_mem member)
  obtain rfl := (only held (mem_of_find? found)).mp (id_of_find? found)
  refine ⟨member, only, contains_iff_find?.mpr ⟨held, found⟩, found, ?_, ?_⟩
  · rw [take?_eq unlike, found]
    rfl
  · rw [← Bool.not_eq_true, contains_iff_find?]
    rintro ⟨other, still⟩
    rw [find?_without, if_pos (List.mem_singleton_self _)] at still
    cases still

end Population

/-! ## Requests to a roster -/

namespace Roster

/-- The roster without some ids. -/
def takeAll (s : Roster) : List OrganismId → Roster
  | [] => s
  | id :: rest => (s.take id).takeAll rest

/-- The roster with the organisms of a population that are released from it. -/
def releaseEach (s : Roster) (p : Population) (supply : IdSupply) : List OrganismId → Roster
  | [] => s
  | id :: rest =>
      match p.take? id with
      | none => s.releaseEach p supply rest
      | some (o, p) =>
          let (_, s, supply) := s.enroll supply o
          s.releaseEach p supply rest

/-- What a request to an ecosystem does to a roster.  It is checked against the roster.  Of the
ecosystem there are needed whether the habitat is open, its settings and its random stream,
the strategies and the populations of the nursery, and the supply of ids, but no resident. -/
def serve {α : Type} (s : Roster) (e : Ecosystem) (now : Instant) : Request α → Roster
  | .register o => if e.habitat.isOpen then (s.enroll e.supply o).2.1 else s
  | .execute id => s.execute e.habitat.config now e.habitat.rng id
  | .evolve id => s.change id fun o => ((o.evolve now).run e.habitat.rng).1.1
  | .modify id f => s.change id f
  | .remove id => s.take id
  | .tick => s.tick e.habitat.config now e.habitat.rng
  | .harvest ids _ strategyName =>
      if e.nursery.strategies.contains strategyName ∧
        ∀ id ∈ ids, s.organisms.contains id = true then s.takeAll ids else s
  | .release population ids =>
      match e.nursery.populations.find? population with
      | some source =>
          if ∀ id ∈ ids, source.contains id = true then s.releaseEach source e.supply ids else s
      | none => s
  | .releaseAll population =>
      match e.nursery.populations.find? population with
      | some source => s.releaseEach source e.supply source.ids
      | none => s
  | _ => s

namespace Keeps

variable {s : Roster} {h : Habitat} {limit : Nat} {supply : IdSupply}

theorem takeAll (keeps : s.Keeps h) (ids : List OrganismId) :
    (s.takeAll ids).Keeps (Ecosystem.takeAll h ids).2 := by
  induction ids generalizing s h with
  | nil => exact keeps
  | cons id rest inductionHypothesis =>
      have taken := keeps.take id
      unfold Ecosystem.takeAll Habitat.take?
      cases found : h.find? id with
      | none =>
          -- nobody leaves, and nothing is struck from the lists
          rw [Directory.erase_of_find?_eq_none (Option.map_eq_none_iff.mp found)] at taken
          exact inductionHypothesis taken
      | some o => exact inductionHypothesis taken

theorem releaseEach (keeps : s.Keeps h) (settled : h.Settled supply limit)
    (distinct : supply.DistinctUpTo limit) {p : Population}
    (entering : ∀ o ∈ p.organisms, ¬supply.Pending limit o.id) {ids : List OrganismId}
    (room : (Ecosystem.releaseEach h p supply ids).2.2.2.issued ≤ limit) :
    (s.releaseEach p supply ids).Keeps (Ecosystem.releaseEach h p supply ids).2.1 := by
  induction ids generalizing s h p supply with
  | nil => exact keeps
  | cons id rest inductionHypothesis =>
      unfold Ecosystem.releaseEach Population.take? at room ⊢
      unfold Roster.releaseEach Population.take?
      cases found : p.find? id with
      | none =>
          rw [found] at room
          exact inductionHypothesis keeps settled distinct entering room
      | some o =>
          rw [found] at room
          have advances := h.enroll_advances supply o
          have bounded := Nat.le_trans (releaseEach_advances _ _ _ rest).issued room
          have arrived := entering o (Population.mem_of_find? found)
          have enrolled := keeps.enroll (settled.not_contains_enroll bounded)
          simp only [Option.map_some, keeps.enroll_eq] at enrolled ⊢
          refine inductionHypothesis enrolled (settled.enroll distinct arrived bounded)
            (distinct.of_advances advances) ?_ room
          intro x member
          exact IdSupply.not_pending_of_advances advances
            (entering x (List.mem_of_mem_eraseP member))

/-- A request that succeeds is carried out on the roster as on the habitat. -/
theorem serve {e later : Ecosystem} {now : Instant} {α : Type} {request : Request α} {answer : α}
    (keeps : s.Keeps e.habitat) (settled : e.Settled limit)
    (effect : e.Effect now request answer later) (room : later.supply.issued ≤ limit) :
    (s.serve e now request).Keeps later.habitat := by
  obtain ⟨distinct, habitat, nursery⟩ := settled
  cases effect with
  | register o isOpen =>
      simp only [Roster.serve, isOpen, if_true]
      exact keeps.enroll (habitat.not_contains_enroll room)
  | execute found drawn => exact (keeps.execute found drawn).of_residents rfl
  | @evolve id r evolved outcome rng found drawn =>
      have changed := keeps.change found fun o => ((o.evolve now).run e.habitat.rng).1.1
      rw [drawn] at changed
      exact changed.of_residents rfl
  | modify f found => exact keeps.change found f
  | @remove id r found => exact keeps.take id
  | @removeNothing id missing =>
      have taken := keeps.take id
      rw [Directory.erase_of_find?_eq_none missing] at taken
      exact taken
  | tick => exact keeps.tick now
  | shutdown => exact keeps.of_residents rfl
  | registerStrategy => exact keeps
  | registerLandscape => exact keeps
  | createPopulation => exact keeps
  | removePopulation => exact keeps
  | performSelection => exact keeps
  | runCycle => exact keeps
  | @harvest ids population strategyName strategy known registered =>
      have passed : e.nursery.strategies.contains strategyName = true ∧
          ∀ id ∈ ids, s.organisms.contains id = true := by
        refine ⟨Directory.contains_iff.mpr ⟨strategy, known⟩, ?_⟩
        intro id member
        rw [keeps.contains]
        exact registered id member
      rw [Roster.serve, if_pos passed]
      exact keeps.takeAll ids
  | @release population ids source known held =>
      simp only [Roster.serve, known]
      rw [if_pos held]
      exact keeps.releaseEach habitat distinct (nursery population source known).settled room
  | @releaseAll population source known =>
      simp only [Roster.serve, known]
      exact keeps.releaseEach habitat distinct (nursery population source known).settled room

/-- A request that fails is turned down by the roster as well. -/
theorem serve_of_error {e : Ecosystem} {now : Instant} {α : Type} {request : Request α}
    {fault : EcosystemFault} (keeps : s.Keeps e.habitat)
    (failed : e.perform now request = .error fault) : s.serve e now request = s := by
  -- what has an effect does not fail
  have effectless : ∀ {answer : α} {later : Ecosystem}, ¬e.Effect now request answer later := by
    intro answer later effect
    cases failed.symm.trans (Ecosystem.perform_of_effect effect)
  cases request with
  | register o =>
      refine if_neg ?_
      intro isOpen
      exact effectless (.register o isOpen)
  | execute id =>
      cases found : e.habitat.residents.find? id with
      | some r => exact absurd (.execute found rfl) effectless
      | none => simp only [Roster.serve, Roster.execute, keeps.find?_eq_none found]
  | evolve id =>
      cases found : e.habitat.residents.find? id with
      | some r => exact absurd (.evolve found rfl) effectless
      | none => simp only [Roster.serve, Roster.change, keeps.find?_eq_none found]
  | modify id f =>
      cases found : e.habitat.residents.find? id with
      | some r => exact absurd (.modify f found) effectless
      | none => simp only [Roster.serve, Roster.change, keeps.find?_eq_none found]
  | remove id =>
      cases found : e.habitat.residents.find? id with
      | some r => exact absurd (.remove found) effectless
      | none => exact absurd (.removeNothing found) effectless
  | tick => exact absurd .tick effectless
  | harvest ids population strategyName =>
      refine if_neg ?_
      rintro ⟨listed, present⟩
      obtain ⟨strategy, known⟩ := Directory.contains_iff.mp listed
      refine effectless (.harvest population known ?_)
      intro id member
      rw [← keeps.contains]
      exact present id member
  | release population ids =>
      cases known : e.nursery.populations.find? population with
      | some source =>
          simp only [Roster.serve, known]
          exact if_neg fun held => effectless (.release known held)
      | none => simp only [Roster.serve, known]
  | releaseAll population =>
      cases known : e.nursery.populations.find? population with
      | some source => exact absurd (.releaseAll known) effectless
      | none => simp only [Roster.serve, known]
  | shutdown => rfl
  | registerStrategy => rfl
  | registerLandscape => rfl
  | createPopulation => rfl
  | removePopulation => rfl
  | performSelection => rfl
  | runCycle => rfl

end Keeps

end Roster

namespace Ecosystem

/-! ## Courses -/

/-- An ecosystem after any number of requests that leave ids alone, and the roster that was
kept along.  The ids in front of the limit are different, they come with no organism in
advance, and no more of them are given out. -/
inductive Accompanied (limit : Nat) : Ecosystem → Roster → Prop where
  | founded (c : Config) (habitatSeed nurserySeed : Nat) (supply : IdSupply)
      (distinct : supply.DistinctUpTo limit) :
      Accompanied limit (founded c habitatSeed nurserySeed supply) Roster.empty
  | step {e later : Ecosystem} {s : Roster} {x : Exchange} (before : Accompanied limit e s)
      (faithful : x.request.KeepsIds)
      (entering : ∀ o ∈ x.entering, ¬e.supply.Pending limit o.id) (served : e.Serves x later)
      (room : later.supply.issued ≤ limit) : Accompanied limit later (s.serve e x.now x.request)

variable {e later : Ecosystem} {s : Roster} {limit : Nat}

/-- A request with an effect is a step. -/
theorem Accompanied.after {α : Type} {request : Request α} {answer : α}
    (accompanied : Accompanied limit e s) (now : Instant)
    (effect : e.Effect now request answer later) (faithful : request.KeepsIds)
    (entering : ∀ o ∈ request.entering, ¬e.supply.Pending limit o.id)
    (room : later.supply.issued ≤ limit) : Accompanied limit later (s.serve e now request) := by
  have granted : e.Serves (Exchange.granted now request answer) later := serves_of_effect effect
  exact Accompanied.step accompanied (by exact faithful) (by exact entering) granted room

theorem Accompanied.keeps (accompanied : Accompanied limit e s) :
    e.Settled limit ∧ s.Keeps e.habitat := by
  induction accompanied with
  | founded c habitatSeed nurserySeed supply distinct =>
      exact ⟨(sound_founded c habitatSeed nurserySeed distinct).settled,
        Roster.keeps_founded _ _⟩
  | @step e later s x before faithful entering served room inductionHypothesis =>
      obtain ⟨settled, keeps⟩ := inductionHypothesis
      rcases of_served served with ⟨answer, granted, effect⟩ | ⟨fault, -, failed, rfl⟩
      · simp only [Exchange.entering, granted] at entering
        exact ⟨settled.effect faithful entering effect room, keeps.serve settled effect room⟩
      · rw [keeps.serve_of_error failed]
        exact ⟨settled, keeps⟩

/-- **Identities and rest.**  Every organism of the habitat is registered under its own id.
The roster has these organisms and the ids of those that rest, each of which is the id of a
registered organism; so the active organisms and the resting ones are all there are.  In
every population the ids differ, and an id belongs to one organism of it or to none. -/
theorem identities_and_rest (accompanied : Accompanied limit e s) :
    (∀ id o, e.habitat.find? id = some o → o.id = id) ∧
    (∀ id, s.organisms.find? id = e.habitat.find? id ∧
      (id ∈ s.resting ↔ e.habitat.isResting id = true)) ∧
    (∀ id ∈ s.resting, ∃ o, e.habitat.find? id = some o ∧ o.id = id) ∧
    (e.habitat.metrics.organismCount = s.organisms.size ∧
      e.habitat.metrics.restingCount = s.resting.card ∧ s.resting.card ≤ s.organisms.size ∧
      e.habitat.metrics.activeCount + e.habitat.metrics.restingCount =
        e.habitat.metrics.organismCount) ∧
    ∀ name p, e.nursery.populations.find? name = some p → p.ids.Nodup ∧
      ∀ id, (∃ o, p.IsAlone id o) ∨
        p.contains id = false ∧ p.find? id = none ∧ p.take? id = none := by
  obtain ⟨settled, keeps⟩ := accompanied.keeps
  have keyed : ∀ id o, e.habitat.find? id = some o → o.id = id := by
    intro id o found
    obtain ⟨r, stored, rfl⟩ := Option.map_eq_some_iff.mp found
    exact (settled.habitat id r stored).1
  refine ⟨keyed, fun id => ⟨keeps.find? id, keeps.isResting id⟩, ?_, ?_, ?_⟩
  · intro id rests
    obtain ⟨o, found⟩ := Directory.contains_iff.mp (keeps.registered id rests)
    rw [keeps.find?] at found
    exact ⟨o, found, keyed id o found⟩
  · refine ⟨keeps.size, keeps.length_restingIds, keeps.card_resting_le, ?_⟩
    refine Nat.sub_add_cancel ?_
    rw [keeps.length_restingIds, keeps.size]
    exact keeps.card_resting_le
  · intro name p held
    have unlike := (settled.nursery name p held).ids
    refine ⟨unlike, ?_⟩
    intro id
    cases found : p.find? id with
    | some o =>
        obtain rfl := Population.id_of_find? found
        exact Or.inl ⟨o, Population.isAlone unlike (Population.mem_of_find? found)⟩
    | none =>
        refine Or.inr ⟨?_, rfl, ?_⟩
        · rw [← Bool.not_eq_true, Population.contains_iff_find?]
          rintro ⟨o, impossible⟩
          cases found.symm.trans impossible
        · rw [Population.take?_eq unlike, found]
          rfl

/-- The newt without energy. -/
def weary : Organism := { newt with state := { newt.state with energy := 0.0 } }

/-- The weary newt rests, and then moves to a pond.  It rests no more, and is alone under its
id there. -/
theorem identities_and_rest_weary :
    let lair := (wasteland.registered weary).2
    let dusk := { lair with habitat := (lair.habitat.tick ⟨0, 0⟩).2 }
    let shore := (dusk.harvested [] "pond" Strategy.balanced ⟨0, 0⟩).2
    let later := (shore.harvested [newt.id] "pond" Strategy.balanced ⟨0, 0⟩).2
    (dusk.habitat.metrics.restingCount = 1 ∧
      dusk.habitat.metrics.activeCount + 1 = dusk.habitat.metrics.organismCount) ∧
    later.habitat.isResting newt.id = false ∧
      ∃ p o, later.nursery.populations.find? "pond" = some p ∧ p.IsAlone newt.id o := by
  intro lair dusk shore later
  have founded : Accompanied 100 wasteland Roster.empty :=
    Accompanied.founded _ _ _ _ (IdSupply.numbered_distinct (by decide))
  have unlike : ∀ o ∈ (Request.register weary).entering, ¬wasteland.supply.Pending 100 o.id :=
    List.forall_mem_singleton.mpr newt_not_pending
  have nobody := List.forall_mem_nil fun o : Organism => ¬dusk.supply.Pending 100 o.id
  have arrived : Accompanied 100 lair _ :=
    founded.after ⟨0, 0⟩ (Effect.register weary rfl) trivial unlike (by decide +kernel)
  have rested : Accompanied 100 dusk _ :=
    arrived.after ⟨0, 0⟩ Effect.tick trivial nobody (by decide +kernel)
  have known : dusk.nursery.strategies.find? "balanced" = some Strategy.balanced := rfl
  have dug : Accompanied 100 shore _ :=
    rested.after ⟨0, 0⟩ (Effect.harvest "pond" known (List.forall_mem_nil _)) trivial nobody
      (by decide +kernel)
  have there : ∀ id ∈ [newt.id], shore.habitat.contains id = true :=
    List.forall_mem_singleton.mpr (by decide +kernel)
  have moved : Accompanied 100 later _ :=
    dug.after ⟨0, 0⟩ (Effect.harvest "pond" known there) trivial nobody (by decide +kernel)
  have resting : dusk.habitat.metrics.restingCount = 1 := by decide +kernel
  obtain ⟨-, -, -, ⟨-, -, -, all⟩, -⟩ := identities_and_rest rested
  obtain ⟨-, -, -, -, alone⟩ := identities_and_rest moved
  rw [resting] at all
  refine ⟨⟨resting, all⟩, by decide +kernel, ?_⟩
  have founded : later.nursery.populations.contains "pond" = true := by decide +kernel
  obtain ⟨p, held⟩ := Directory.contains_iff.mp founded
  have member : (later.nursery.populations.find? "pond").any (·.contains newt.id) = true := by
    decide +kernel
  rw [held] at member
  rcases (alone "pond" p held).2 newt.id with ⟨o, single⟩ | ⟨missing, -, -⟩
  · exact ⟨p, o, held, single⟩
  · cases missing.symm.trans member

end Ecosystem

end Vivarium
