import Mathlib.Data.List.GetD
import Vivarium.Breeding.Nursery
import Vivarium.Proofs.Breeding.Provenance
import Vivarium.Proofs.Organism.Renaming

/-!
# Populations under other ids

Ids of a population are compared with each other, handed on to children's events, and drawn from
the supply.  None of this tells one id from another.  So whatever is done to a population is done
to the renamed population as well, and comes to the renamed result, if the fresh ids are renamed,
too.

The other population draws its fresh ids from a supply of its own.  It is enough that this supply
gives out the renamed ids as far as ids are drawn at all.

Main definitions:

* `IdSupply.Mirrors`: a supply that gives out the renamed ids;
* `Population.renamed`, `Event.renamed`, `EventLog.renamed`: each under the new ids.

Main statements:

* `drawClones_renamed`, `drawLitter_renamed`: clones and children are drawn alike;
* `enrollAll_renamed`, `enrollClones_renamed`, `nameOffspring_renamed`: ids are given out alike;
* `select_renamed`: a cycle of selection.
-/

namespace Vivarium

variable {π : Renaming} {limit : Nat} {supply other : IdSupply} {now : Instant}

/-! ## Supplies -/

namespace IdSupply

/-- The other supply stands where this one does, and gives out the renamed ids in front of the
limit. -/
structure Mirrors (π : Renaming) (limit : Nat) (supply other : IdSupply) : Prop where
  issued : other.issued = supply.issued
  ids : ∀ n, n < limit → other.ids n = π (supply.ids n)

/-- The supply when it stands where another one does. -/
def follow (other supply : IdSupply) : IdSupply := { other with issued := supply.issued }

namespace Mirrors

theorem follow_self (mirrors : Mirrors π limit supply other) : other.follow supply = other := by
  rw [follow, ← mirrors.issued]

/-- It goes on so as ids are given out. -/
theorem follow {later : IdSupply} (mirrors : Mirrors π limit supply other)
    (advances : supply.Advances later) : Mirrors π limit later (other.follow later) := by
  refine ⟨rfl, ?_⟩
  intro n below
  rw [advances.ids]
  exact mirrors.ids n below

theorem next (mirrors : Mirrors π limit supply other) (room : supply.next.2.issued ≤ limit) :
    other.next = (π supply.next.1, other.follow supply.next.2) := by
  rw [IdSupply.next, mirrors.issued, mirrors.ids _ room]
  rfl

end Mirrors

end IdSupply

open IdSupply (Mirrors)

/-! ## Clones and children -/

/-- The clone of a renamed seed. -/
def Clone.renamed (π : Renaming) (c : Clone) : Clone :=
  { c with organism := c.organism.renamed π }

/-- The child of renamed parents. -/
def Offspring.renamed (π : Renaming) (c : Offspring) : Offspring :=
  { c with
    organism := c.organism.renamed π
    parents := c.parents.map fun parents => (π parents.1, π parents.2) }

theorem drawClone_renamed (parent : Organism) (now : Instant) :
    drawClone (parent.renamed π) now = Clone.renamed π <$> drawClone parent now := by
  simp only [drawClone, map_bind]
  apply bind_congr
  intro kind
  show (Mutation.apply ((parent.successor now).renamed π) kind >>= _) = _
  rw [Mutation.apply_renamed, bind_map_left]
  rfl

theorem drawClones_renamed (seeds : List Organism) (now : Instant) (count : Nat) :
    drawClones (seeds.map (Organism.renamed π)) now count =
      List.map (Clone.renamed π) <$> drawClones seeds now count := by
  induction count with
  | zero => rfl
  | succ count inductionHypothesis =>
      simp only [drawClones, Draw.choose_map, bind_map_left, map_bind]
      apply bind_congr
      intro chosen
      cases chosen with
      | none => rfl
      | some parent =>
          simp only [Option.map_some, drawClone_renamed, inductionHypothesis, bind_map_left,
            map_bind, map_pure, List.map_cons]

theorem drawChild_renamed (first second : Organism) (strategy : Strategy) (eliteBias : Float)
    (now : Instant) :
    drawChild (first.renamed π) (second.renamed π) strategy eliteBias now =
      Organism.renamedWith π <$> drawChild first second strategy eliteBias now := by
  simp only [drawChild, map_bind]
  apply bind_congr
  intro chance
  split
  · rw [crossover_renamed, bind_map_left, map_bind]
    rfl
  · rfl

theorem maybeMutate_renamed (child : Organism) (strategy : Strategy) :
    maybeMutate (child.renamed π) strategy =
      Organism.renamedWith π <$> maybeMutate child strategy := by
  simp only [maybeMutate, map_bind]
  apply bind_congr
  intro chance
  split
  · simp only [Mutation.apply_renamed, map_bind, bind_map_left]
    rfl
  · rfl

theorem drawOffspring_renamed (best : Organism) (pool : List Organism) (config : NurseryConfig)
    (strategy : Strategy) (now : Instant) :
    drawOffspring (best.renamed π) (pool.map (Organism.renamed π)) config strategy now =
      Offspring.renamed π <$> drawOffspring best pool config strategy now := by
  simp only [drawOffspring, List.length_map, List.getD_map, drawChild_renamed, map_bind,
    bind_map_left]
  apply bind_congr
  intro first
  apply bind_congr
  intro second
  apply bind_congr
  rintro ⟨child, crossed⟩
  rw [Organism.renamedWith, maybeMutate_renamed, bind_map_left]
  apply bind_congr
  rintro ⟨child, outcome⟩
  cases crossed with
  | false => rfl
  | true => rfl

theorem drawLitter_renamed (best : Organism) (pool : List Organism) (config : NurseryConfig)
    (strategy : Strategy) (now : Instant) (count : Nat) :
    drawLitter (best.renamed π) (pool.map (Organism.renamed π)) config strategy now count =
      List.map (Offspring.renamed π) <$> drawLitter best pool config strategy now count := by
  induction count with
  | zero => rfl
  | succ count inductionHypothesis =>
      simp only [drawLitter, drawOffspring_renamed, inductionHypothesis, bind_map_left, map_bind,
        map_pure, List.map_cons]

/-! ## Events -/

/-- The detail with new ids. -/
def Event.Detail.renamed (π : Renaming) : Event.Detail → Event.Detail
  | .crossed first second => .crossed (π first) (π second)
  | detail => detail

/-- The event with new ids. -/
def Event.renamed (π : Renaming) (event : Event) : Event :=
  { event with organism := event.organism.map π, detail := event.detail.renamed π }

/-- The log with new ids. -/
def EventLog.renamed (π : Renaming) (log : EventLog) : EventLog :=
  { log with events := log.events.map (Event.renamed π) }

theorem EventLog.renamed_pushAll (log : EventLog) (events : List Event) :
    (log.pushAll events).renamed π = (log.renamed π).pushAll (events.map (Event.renamed π)) := by
  have pushed : ∀ (log : EventLog) (event : Event),
      (log.push event).renamed π = (log.renamed π).push (event.renamed π) := by
    intro log event
    simp only [push, renamed, List.length_map, List.map_append, List.map_singleton]
    split
    · rw [List.map_drop]
    · rfl
  induction events generalizing log with
  | nil => rfl
  | cons event rest inductionHypothesis =>
      have rested := inductionHypothesis (log.push event)
      rw [pushed] at rested
      exact rested

theorem Offspring.events_renamed (c : Offspring) (id : OrganismId) (population : String)
    (now : Instant) :
    (c.renamed π).events (π id) population now =
      (c.events id population now).map (Event.renamed π) := by
  obtain ⟨organism, parents, outcome⟩ := c
  cases parents <;> cases outcome <;> rfl

/-- Remarkable events tell nothing about single organisms. -/
theorem emergence_renamed (config : NurseryConfig) (population : String) (now : Instant)
    (before after : Metrics) (organisms : List Organism) :
    emergence config population now before after (organisms.map (Organism.renamed π)) =
      (emergence config population now before after organisms).map (Event.renamed π) := by
  have species : (speciation population now before after).map (Event.renamed π) =
      speciation population now before after := by
    unfold speciation
    split <;> rfl
  have best : (breakthrough config population now before after).map (Event.renamed π) =
      breakthrough config population now before after := by
    unfold breakthrough
    split <;> rfl
  have bad : (extinction config population now organisms).map (Event.renamed π) =
      extinction config population now (organisms.map (Organism.renamed π)) := by
    have below : (organisms.map (Organism.renamed π)).countP
        (fun o => decide (o.state.fitness < config.extinctionFloor)) =
          organisms.countP fun o => decide (o.state.fitness < config.extinctionFloor) := by
      rw [List.countP_map]
      rfl
    simp only [extinction, below, List.length_map]
    split <;> rfl
  rw [emergence, emergence, List.map_append, List.map_append, species, best, bad]

/-! ## Populations -/

/-- The population under the new ids. -/
def Population.renamed (π : Renaming) (p : Population) : Population :=
  { p with organisms := p.organisms.map (Organism.renamed π) }

theorem Metrics.measure_renamed (organisms : List Organism) (bucketWidth : Float) :
    measure (organisms.map (Organism.renamed π)) bucketWidth = measure organisms bucketWidth := by
  have species : Vivarium.speciesCount (organisms.map (Organism.renamed π)) bucketWidth =
      Vivarium.speciesCount organisms bucketWidth := by
    simp only [Vivarium.speciesCount, List.map_map]
    rfl
  simp only [measure, species, List.isEmpty_map, List.length_map, List.map_map, List.foldl_map]
  rfl

theorem rank_renamed (l : Landscape) (organisms : List Organism) :
    rank l (organisms.map (Organism.renamed π)) = (rank l organisms).map (Organism.renamed π) := by
  have scored : (organisms.map (Organism.renamed π)).map (·.scored l) =
      (organisms.map (·.scored l)).map (Organism.renamed π) := by
    rw [List.map_map, List.map_map]
    rfl
  have order : ∀ a ∈ organisms.map (·.scored l), ∀ b ∈ organisms.map (·.scored l),
      a.fitter b = (a.renamed π).fitter (b.renamed π) := fun _ _ _ _ => rfl
  rw [rank, scored]
  exact (List.map_mergeSort order).symm

namespace Population

variable (p : Population)

theorem renamed_remeasure (bucketWidth : Float) :
    (p.remeasure bucketWidth).renamed π = (p.renamed π).remeasure bucketWidth := by
  simp only [remeasure, renamed, Metrics.measure_renamed]

theorem ids_renamed : (p.renamed π).ids = p.ids.map π := by
  simp only [ids, renamed, List.map_map]
  rfl

theorem size_renamed : (p.renamed π).size = p.size := List.length_map _

theorem contains_renamed (id : OrganismId) : (p.renamed π).contains (π id) = p.contains id := by
  rw [Bool.eq_iff_iff, contains, contains, List.contains_iff_mem, List.contains_iff_mem,
    ids_renamed, List.mem_map_of_injective π.injective]

theorem find?_renamed (id : OrganismId) :
    (p.renamed π).find? (π id) = (p.find? id).map (Organism.renamed π) := by
  have sought : (fun o : Organism => decide (o.id = π id)) ∘ Organism.renamed π =
      fun o => decide (o.id = id) := by
    funext o
    exact decide_eq_decide.mpr π.injective.eq_iff
  rw [find?, renamed, List.find?_map, sought]
  rfl

theorem take?_renamed (id : OrganismId) :
    (p.renamed π).take? (π id) =
      (p.take? id).map fun taken => (taken.1.renamed π, taken.2.renamed π) := by
  have sought : (fun o : Organism => decide (o.id = π id)) ∘ Organism.renamed π =
      fun o => decide (o.id = id) := by
    funext o
    exact decide_eq_decide.mpr π.injective.eq_iff
  rw [take?, take?, find?_renamed, Option.map_map, Option.map_map]
  simp only [renamed, List.eraseP_map, sought]
  rfl

variable {p}

theorem enroll_renamed (mirrors : Mirrors π limit supply other) (o : Organism)
    (room : (p.enroll supply o).2.2.issued ≤ limit) :
    (p.renamed π).enroll other (o.renamed π) =
      (π (p.enroll supply o).1, (p.enroll supply o).2.1.renamed π,
        other.follow (p.enroll supply o).2.2) := by
  have added : ∀ id, { p.renamed π with
      organisms := (p.renamed π).organisms ++ [({ o with id := π id } : Organism).normalize] } =
        ({ p with organisms := p.organisms ++ [({ o with id := id } : Organism).normalize] } :
          Population).renamed π := by
    intro id
    simp only [renamed, List.map_append]
    rfl
  unfold enroll at room ⊢
  rw [Organism.renamed_id, contains_renamed]
  by_cases taken : p.contains o.id = true
  · rw [if_pos taken] at room ⊢
    rw [if_pos taken, mirrors.next room]
    exact congrArg (fun q => (_, q, _)) (added _)
  · rw [if_neg taken] at room ⊢
    rw [if_neg taken, mirrors.follow_self]
    exact congrArg (fun q => (_, q, _)) (added _)

end Population

/-! ## Operations on a population -/

variable {p : Population}

theorem enrollAll_renamed (mirrors : Mirrors π limit supply other) {arrived : List Organism}
    (room : (Nursery.enrollAll p supply arrived).2.2.issued ≤ limit) :
    Nursery.enrollAll (p.renamed π) other (arrived.map (Organism.renamed π)) =
      ((Nursery.enrollAll p supply arrived).1.map π,
        (Nursery.enrollAll p supply arrived).2.1.renamed π,
        other.follow (Nursery.enrollAll p supply arrived).2.2) := by
  induction arrived generalizing p supply other with
  | nil => exact congrArg (fun s => ([], p.renamed π, s)) mirrors.follow_self.symm
  | cons o rest inductionHypothesis =>
      have advances := p.enroll_advances supply o
      have others := enrollAll_advances (p.enroll supply o).2.1 (p.enroll supply o).2.2 rest
      have enrolled := Population.enroll_renamed mirrors o (Nat.le_trans others.issued room)
      have restEnrolled :=
        inductionHypothesis (p := (p.enroll supply o).2.1) (mirrors.follow advances) room
      simp only [List.map_cons, Nursery.enrollAll, enrolled]
      rw [restEnrolled]
      rfl

theorem enrollClones_renamed (mirrors : Mirrors π limit supply other) {clones : List Clone}
    (room : (enrollClones p now supply clones).2.2.issued ≤ limit) :
    enrollClones (p.renamed π) now other (clones.map (Clone.renamed π)) =
      ((enrollClones p now supply clones).1.renamed π,
        (enrollClones p now supply clones).2.1.map (Event.renamed π),
        other.follow (enrollClones p now supply clones).2.2) := by
  induction clones generalizing p supply other with
  | nil => exact congrArg (fun s => (p.renamed π, [], s)) mirrors.follow_self.symm
  | cons clone rest inductionHypothesis =>
      let born : Organism := { clone.organism with id := supply.next.1 }
      have advances := p.enroll_advances supply.next.2 born
      have others := enrollClones_advances (p.enroll supply.next.2 born).2.1 now
        (p.enroll supply.next.2 born).2.2 rest
      have room' : (p.enroll supply.next.2 born).2.2.issued ≤ limit :=
        Nat.le_trans others.issued room
      have mirrorsNext := mirrors.follow supply.advances_next
      have enrolled : (p.renamed π).enroll (other.follow supply.next.2)
          { (clone.renamed π).organism with id := π supply.next.1 } = _ :=
        Population.enroll_renamed mirrorsNext born room'
      have restEnrolled := inductionHypothesis (p := (p.enroll supply.next.2 born).2.1)
        (mirrorsNext.follow advances) room
      simp only [List.map_cons, enrollClones, mirrors.next (Nat.le_trans advances.issued room')]
      rw [enrolled, restEnrolled]
      rfl

theorem nameOffspring_renamed (mirrors : Mirrors π limit supply other) (population : String)
    {litter : List Offspring}
    (room : (nameOffspring population now supply litter).2.2.issued ≤ limit) :
    nameOffspring population now other (litter.map (Offspring.renamed π)) =
      ((nameOffspring population now supply litter).1.map (Organism.renamed π),
        (nameOffspring population now supply litter).2.1.map (Event.renamed π),
        other.follow (nameOffspring population now supply litter).2.2) := by
  induction litter generalizing supply other with
  | nil => exact congrArg (fun s => ([], [], s)) mirrors.follow_self.symm
  | cons child rest inductionHypothesis =>
      have others : supply.next.2.Advances _ := nameOffspring_advances population now _ rest
      have mirrorsNext := mirrors.follow supply.advances_next
      have restNamed := inductionHypothesis mirrorsNext room
      simp only [List.map_cons, nameOffspring, mirrors.next (Nat.le_trans others.issued room)]
      rw [restNamed]
      simp only [Offspring.events_renamed, List.map_append]
      rfl

/-- The population of a selection, its events and its supply under the new ids. -/
def Selected.renamed (π : Renaming) (other : IdSupply) (s : Selected) : Selected :=
  { s with
    population := s.population.renamed π
    events := s.events.map (Event.renamed π)
    supply := other.follow s.supply }

/-- A cycle of selection on a population under other ids. -/
theorem select_renamed (mirrors : Mirrors π limit supply other) {config : NurseryConfig}
    {strategy : Strategy} {landscape : Landscape} {rng : Rng}
    (room : (select config strategy landscape now p rng supply).supply.issued ≤ limit) :
    select config strategy landscape now (p.renamed π) rng other =
      (select config strategy landscape now p rng supply).renamed π other := by
  unfold select at room ⊢
  dsimp only at room ⊢
  have ranked : rank landscape (p.renamed π).organisms =
      (rank landscape p.organisms).map (Organism.renamed π) := rank_renamed landscape p.organisms
  rw [ranked]
  generalize rank landscape p.organisms = ranking at room ⊢
  cases ranking with
  | nil =>
      simp only [List.map_nil, Selected.renamed, mirrors.follow_self, idleReport,
        Population.size_renamed]
      rfl
  | cons best others =>
      rw [List.map_cons]
      dsimp only at room ⊢
      rw [← List.map_cons, List.length_map, ← List.map_take, drawLitter_renamed, StateT.run_map]
      generalize StateT.run (drawLitter best _ config strategy now _) rng = drawn at room ⊢
      obtain ⟨litter, later⟩ := drawn
      have children := nameOffspring_renamed mirrors p.name room
      have name : (p.renamed π).name = p.name := rfl
      have size : (p.renamed π).size = p.size := p.size_renamed
      have crossovers : (litter.map (Offspring.renamed π)).countP (·.parents.isSome) =
          litter.countP (·.parents.isSome) := by
        rw [List.countP_map]
        refine congrArg (fun f => litter.countP f) (funext fun child => ?_)
        exact Option.isSome_map
      have mutations : (litter.map (Offspring.renamed π)).countP (·.outcome.isSome) =
          litter.countP (·.outcome.isSome) := List.countP_map
      simp only [Functor.map, name, size, children, crossovers, mutations, List.length_map,
        ← List.map_take, ← List.map_append, Metrics.measure_renamed, emergence_renamed]
      simp only [Selected.renamed, Population.renamed, List.map_append]
      rfl

end Vivarium
