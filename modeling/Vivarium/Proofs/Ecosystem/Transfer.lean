import Vivarium.Proofs.Ecosystem.Soundness

/-!
# Transfers

A transfer moves organisms between the habitat and a population.  It neither loses
nor duplicates an organism, and it alters none: an organism keeps everything but an
id that is taken where it comes to.  What is not listed stays where and as it is.

An organism may be listed several times and counts where it is listed first.  In a
sound ecosystem the organisms listed can all settle, so what becomes of each depends
on what was there before the transfer, and not on the others that move with it.

Main definitions:

* `IsHarvest`, `IsRelease`: what the two transfers come to.

Main statements:

* `Sound.isHarvest`, `Sound.isRelease`: one transfer in a sound ecosystem;
* `transfers_conserve`: transfers in a reachable ecosystem.
-/

namespace Vivarium

namespace Ecosystem

/-- A harvest came to this: the organisms taken from the habitat have settled in a
population, which clones were added to if it is new. -/
structure IsHarvest (e later : Ecosystem) (ids : List OrganismId) (population : String)
    (strategy : Strategy) (now : Instant) (taken settled clones : List Organism)
    (after : Population) : Prop where
  /-- The organisms listed, each once and where it is listed first. -/
  listed : taken.map (·.id) = ids.eraseDups
  registered : ∀ o ∈ taken, e.habitat.find? o.id = some o
  /-- They are gone with their marks, and nothing else about the habitat changed. -/
  residents : ∀ id, later.habitat.residents.find? id =
    if id ∈ ids then none else e.habitat.residents.find? id
  habitat : later.habitat = { e.habitat with residents := later.habitat.residents }
  /-- Each is what it was, but for an id that the population held before. -/
  settlement : ∃ middle, middle.Advances later.supply ∧
    IsSettlement (· ∈ (e.target population strategy now).ids) e.supply middle taken settled
  /-- They stand behind the organisms that were there, and the clones behind them. -/
  organisms : after.organisms =
    (e.target population strategy now).organisms ++ settled ++ clones
  figures : after =
    { e.target population strategy now with
      organisms := after.organisms
      metrics := Metrics.measure after.organisms e.nursery.config.speciesBucketWidth }
  filled : clones.length =
    if (e.nursery.populations.find? population).isSome ∨ taken = [] then 0
    else strategy.populationSize - taken.length
  kinship : ∀ clone ∈ clones, ∃ seed ∈ taken, Organism.IsCloneOf now seed clone
  /-- No two organisms of the population have one id. -/
  unlike : after.ids.Nodup
  populations : ∀ name, later.nursery.populations.find? name =
    if name = population then some after else e.nursery.populations.find? name
  nursery : ∃ rng counters history, later.nursery =
    { e.nursery with
      populations := later.nursery.populations
      rng := rng
      counters := counters
      history := history }

/-- A release came to this: the organisms taken from a population have settled in the
habitat. -/
structure IsRelease (e later : Ecosystem) (population : String) (ids : List OrganismId)
    (source : Population) (taken registered : List Organism) : Prop where
  held : e.nursery.populations.find? population = some source
  /-- The organisms listed, each once and where it is listed first. -/
  listed : taken.map (·.id) = ids.eraseDups
  members : ∀ o ∈ taken, o ∈ source.organisms
  /-- Each is what it was, but for an id that the habitat held before. -/
  settlement : IsSettlement (fun id => e.habitat.contains id = true) e.supply later.supply
    taken registered
  /-- They are registered, awake, and nothing else about the habitat changed. -/
  arrival : IsArrival e.habitat registered later.habitat
  /-- They are gone from the population, whose others keep their order. -/
  populations : ∀ name, later.nursery.populations.find? name =
    if name = population then
      some ((source.without ids).remeasure e.nursery.config.speciesBucketWidth)
    else e.nursery.populations.find? name
  nursery : later.nursery = { e.nursery with populations := later.nursery.populations }

variable {e later : Ecosystem} {limit : Nat} {population strategyName : String}
  {ids : List OrganismId} {now : Instant}

/-- A harvest in a sound ecosystem, answered by the ids of the organisms moved. -/
theorem Sound.isHarvest (sound : e.Sound limit) {moved : List OrganismId}
    (performed : e.harvest ids population strategyName now = .ok (moved, later))
    (room : later.supply.issued ≤ limit) :
    ∃ strategy taken settled clones after,
      e.nursery.strategies.find? strategyName = some strategy ∧
        IsHarvest e later ids population strategy now taken settled clones after ∧
        moved = settled.map (·.id) := by
  obtain ⟨strategy, known, registered, same⟩ := harvest_eq_ok.mp performed
  cases same
  have taking := takeAll_isTaking e.habitat ids
  have enrolled := enrollAll_advances (e.target population strategy now) e.supply
    (takeAll e.habitat ids).1
  have enrolledRoom := Nat.le_trans (fill_advances e.nursery _ _ _ now _).issued room
  have together := (sound.settled.target population strategy now).enrollAll sound.distinct
    (fun o member => sound.settled.not_pending_taken member) enrolledRoom
  have normal := (sound.isNormal.habitat.takeAll ids).1
  obtain ⟨settled, middle, settles, settlement⟩ := enrollAll_isSettlement normal
    (sound.settled.canHarvest registered) enrolledRoom
  have distinct := sound.distinct.of_advances enrolled
  -- the clones are filled in behind those that have settled, from what is left of the supply
  rw [settles] at room together distinct ⊢
  dsimp only at room together distinct ⊢
  obtain ⟨clones, filling⟩ := fill_isFilling e.nursery distinct
    (fun id => together.not_pending) room
  have unlike := (together.fill distinct room).ids
  generalize e.nursery.fill _ _ _ now middle = filled at room filling unlike ⊢
  obtain ⟨rng, counters, history, nursery⟩ := filling.nursery
  have counted : settled.length = (takeAll e.habitat ids).1.length :=
    settlement.each.length_eq.symm
  refine ⟨strategy, (takeAll e.habitat ids).1, settled, clones, filled.1, known, ?_, rfl⟩
  exact {
    listed := sound.settled.map_id_takeAll registered
    registered := fun o member => sound.settled.find?_taken member
    residents := taking.residents
    habitat := taking.others
    settlement := by
      refine ⟨middle, ?_, settlement⟩
      rw [filling.skipped]
      exact middle.advances_skip clones.length
    organisms := by rw [filling.population]
    figures := by rw [filling.population]
    filled := by
      rw [filling.size]
      cases held : e.nursery.populations.find? population with
      | none =>
          -- a new population is empty, so that all that is in it was moved there
          have founded : (e.target population strategy now).organisms = [] := by
            rw [Ecosystem.target, held]
            rfl
          simp [Population.size, founded, counted]
      | some p => simp
    kinship := filling.kinship
    unlike := unlike
    populations := by
      intro name
      rw [Nursery.put, Directory.find?_insert, nursery]
    nursery := ⟨rng, counters, history, by rw [Nursery.put, nursery]⟩ }

/-- A release in a sound ecosystem, answered by the organisms as they are registered. -/
theorem Sound.isRelease (sound : e.Sound limit) {registered : List Organism}
    (performed : e.release population ids = .ok (registered, later))
    (room : later.supply.issued ≤ limit) :
    ∃ source taken, IsRelease e later population ids source taken registered := by
  obtain ⟨source, known, held, same⟩ := release_eq_ok.mp performed
  cases same
  have together := sound.nursery population source known
  obtain ⟨registered, after, last, walked, settlement, arrival⟩ :=
    releaseEach_eq together.ids together.normal (sound.settled.canRelease known held) room
  rw [walked] at room ⊢
  refine ⟨source, ids.eraseDups.filterMap source.find?, ?_⟩
  exact {
    held := known
    listed := map_id_taken held
    members := by
      intro o member
      obtain ⟨id, -, found⟩ := List.mem_filterMap.mp member
      exact Population.mem_of_find? found
    settlement := settlement
    arrival := arrival
    populations := fun name => Directory.find?_insert _ _ _ _
    nursery := rfl }

/-- Transfers in a reachable ecosystem neither lose nor duplicate nor alter
organisms. -/
theorem transfers_conserve (reachable : Reachable limit e) :
    (∀ ids population strategyName now moved later,
      e.harvest ids population strategyName now = .ok (moved, later) →
      later.supply.issued ≤ limit →
      ∃ strategy taken settled clones after,
        e.nursery.strategies.find? strategyName = some strategy ∧
          IsHarvest e later ids population strategy now taken settled clones after ∧
          moved = settled.map (·.id)) ∧
    (∀ population ids registered later,
      e.release population ids = .ok (registered, later) →
      later.supply.issued ≤ limit →
      ∃ source taken, IsRelease e later population ids source taken registered) :=
  ⟨fun _ _ _ _ _ _ performed room => reachable.sound.isHarvest performed room,
    fun _ _ _ _ performed room => reachable.sound.isRelease performed room⟩

/-! A newt is registered in a new ecosystem, harvested into an empty pond by a list that
has it twice, and released again. -/

/-- The newt before it is registered. -/
def newt : Organism := { Organism.newborn "newt" ⟨0, 0⟩ with id := ⟨1000⟩ }

/-- A new ecosystem. -/
def wasteland : Ecosystem := founded Config.standard 1 2 IdSupply.numbered

/-- The ecosystem with the newt. -/
def clearing : Ecosystem :=
  { wasteland with habitat := (wasteland.habitat.enroll wasteland.supply newt).2.1 }

/-- The ecosystem with the newt and an empty pond. -/
def pondside : Ecosystem := (clearing.harvested [] "pond" Strategy.balanced ⟨0, 0⟩).2

/-- The ecosystem with the newt in the pond. -/
def pond : Ecosystem :=
  (pondside.harvested [newt.id, newt.id] "pond" Strategy.balanced ⟨0, 0⟩).2

/-- The first ids are numbers below that of the newt. -/
theorem newt_not_pending : ¬wasteland.supply.Pending 100 newt.id := by
  rintro ⟨n, -, below, given⟩
  have small : n % 2 ^ 128 = 1000 := congrArg (fun id : OrganismId => id.bits.toNat) given
  omega

theorem reachable_pondside : Reachable 100 pondside := by
  have started : Reachable 100 wasteland :=
    Reachable.founded _ _ _ _ (IdSupply.numbered_distinct (by decide))
  have unlike : ∀ o ∈ (Request.register newt).entering, ¬wasteland.supply.Pending 100 o.id :=
    List.forall_mem_singleton.mpr newt_not_pending
  have registering : wasteland.perform ⟨0, 0⟩ (.register newt) =
      .ok (newt.normalize, clearing) := rfl
  have digging : clearing.perform ⟨0, 0⟩ (.harvest [] "pond" "balanced") =
      .ok ([], pondside) := rfl
  have cleared : Reachable 100 clearing :=
    started.step (by exact not_false) unlike registering (by decide +kernel)
  exact cleared.step (by exact not_false) (List.forall_mem_nil _) digging (by decide +kernel)

theorem harvest_newt :
    pondside.harvest [newt.id, newt.id] "pond" "balanced" ⟨0, 0⟩ = .ok ([newt.id], pond) :=
  rfl

theorem reachable_pond : Reachable 100 pond := by
  have harvesting : pondside.perform ⟨0, 0⟩
      (.harvest [newt.id, newt.id] "pond" "balanced") = .ok ([newt.id], pond) := harvest_newt
  exact reachable_pondside.step (by exact not_false) (List.forall_mem_nil _) harvesting
    (by decide +kernel)

/-- The pond with the newt. -/
def stock : Population :=
  (pond.nursery.populations.find? "pond").getD (Population.founded "pond" "balanced" ⟨0, 0⟩)

theorem find?_stock : pond.nursery.populations.find? "pond" = some stock := by
  have held : pond.nursery.populations.contains "pond" = true := by decide +kernel
  obtain ⟨p, found⟩ := Directory.contains_iff.mp held
  rw [stock, found, Option.getD_some]

theorem release_newt :
    pond.release "pond" [newt.id] = .ok (pond.released "pond" stock [newt.id]) := by
  refine release_eq_ok.mpr ⟨stock, find?_stock, List.forall_mem_singleton.mpr ?_, rfl⟩
  decide +kernel

theorem transfers_conserve_newt :
    (∃ strategy taken settled clones after,
      pondside.nursery.strategies.find? "balanced" = some strategy ∧
        IsHarvest pondside pond [newt.id, newt.id] "pond" strategy ⟨0, 0⟩ taken settled clones
          after ∧
        [newt.id] = settled.map (·.id)) ∧
    ∃ source taken,
      IsRelease pond (pond.released "pond" stock [newt.id]).2 "pond" [newt.id] source taken
        (pond.released "pond" stock [newt.id]).1 :=
  ⟨(transfers_conserve reachable_pondside).1 _ _ _ _ _ _ harvest_newt (by decide +kernel),
    (transfers_conserve reachable_pond).2 _ _ _ _ release_newt (by decide +kernel)⟩

end Ecosystem

end Vivarium
