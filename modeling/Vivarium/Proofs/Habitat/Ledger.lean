import Mathlib.Algebra.BigOperators.Group.List.Lemmas
import Mathlib.Algebra.GroupWithZero.Nat
import Vivarium.Habitat.Basic
import Vivarium.Proofs.Directory
import Vivarium.Proofs.Organism.Age

/-!
# The ledger of a habitat

A habitat counts its cycles by their outcomes, and the steps of evolution in them.  What is
counted can be read off the residents again: whoever rests after a cycle has met that
outcome in it, and whoever has evolved in it has one generation and one mutation more.

A cycle of all is a walk through the residents that hands a report on.  What the walk has
done so far is described for the part of the residents that it has come by, so that the
description of the whole follows by going through them.

The steps of evolution are told for each organism, since its counts are words of their own: one
of them may start over while the others do not.

Main definitions:

* `Habitat.generations`, `Habitat.mutations`: the counts of all organisms together;
* `Habitat.IsWalk`: residents before and after a walk, with what it reports;
* `Habitat.MaturesBy`: the same organisms, each of them so many steps of evolution later.

Main statements:

* `Habitat.isWalk_tick`: what a cycle of all reports;
* `Habitat.maturesBy_tick`, `Habitat.maturesBy_put`: evolution is counted where it happens;
* `Habitat.MaturesBy.sum_counts`: what all counts together come to.
-/

namespace Vivarium

open Draw Number

namespace TickReport

variable (report : TickReport) (outcome : CycleOutcome)

theorem add_evolved : (report.add outcome).evolved = report.evolved + outcome.evolutions := by
  cases outcome <;> rfl

theorem add_resting :
    (report.add outcome).resting = report.resting + if outcome = .resting then 1 else 0 := by
  cases outcome <;> rfl

/-- Only who ticks evolves. -/
theorem add_ticked : report.ticked + outcome.evolutions ≤ (report.add outcome).ticked := by
  cases outcome with
  | ticked evolved => cases evolved <;> simp [add, CycleOutcome.evolutions]
  | _ => exact Nat.le_refl _

end TickReport

namespace HabitatCounters

variable (counters : HabitatCounters) (report : TickReport)

/-- Every outcome of a report is counted as a tick or as a regeneration. -/
theorem record_total :
    (counters.record report).organismTicks + (counters.record report).regenerations =
      counters.organismTicks + counters.regenerations + report.total := by
  simp only [record, TickReport.total]
  omega

/-- A tick that fails is counted as a tick, too. -/
theorem record_tickFailures (before : counters.tickFailures ≤ counters.organismTicks) :
    (counters.record report).tickFailures ≤ (counters.record report).organismTicks := by
  simp only [record]
  omega

end HabitatCounters

namespace Habitat

/-! ## Walks -/

/-- A walk has gone through some residents, and has led from one report to another.  Each of the
residents has evolved by so many steps meanwhile. -/
structure IsWalk (steps : OrganismId → Nat) (before after : List (OrganismId × Resident))
    (report later : TickReport) : Prop where
  ids : after.map (·.1) = before.map (·.1)
  aged : ∀ id r, (id, r) ∈ before →
    ∃ cycled, (id, cycled) ∈ after ∧ Organism.AgesBy (steps id) r.organism cycled.organism
  /-- Each resident has met one outcome. -/
  total : later.total = report.total + before.length
  evolved : later.evolved + report.ticked ≤ report.evolved + later.ticked
  resting : later.resting = report.resting + after.countP (·.2.resting)
  evolutions : later.evolved = report.evolved + ((before.map (·.1)).map steps).sum

theorem IsWalk.nil (steps : OrganismId → Nat) (report : TickReport) :
    IsWalk steps [] [] report report :=
  ⟨rfl, (fun _ _ member => nomatch member), rfl, Nat.le_refl _, rfl, rfl⟩

/-- One resident more, whose outcome is reported first. -/
theorem IsWalk.cons {steps : OrganismId → Nat} {before after : List (OrganismId × Resident)}
    {report later : TickReport} {outcome : CycleOutcome} {r cycled : Resident} {id : OrganismId}
    (walk : IsWalk steps before after (report.add outcome) later)
    (new : id ∉ before.map (·.1))
    (aged : Organism.AgesBy outcome.evolutions r.organism cycled.organism)
    (rests : cycled.resting = true ↔ outcome = .resting) :
    IsWalk (Function.update steps id outcome.evolutions) ((id, r) :: before)
      ((id, cycled) :: after) report later := by
  obtain ⟨ids, others, total, evolved, resting, evolutions⟩ := walk
  have ticks := report.add_ticked outcome
  rw [report.add_total] at total
  rw [report.add_resting] at resting
  rw [report.add_evolved] at evolved evolutions
  -- nobody else is meant by the id
  have apart : ∀ other ∈ before.map (·.1),
      Function.update steps id outcome.evolutions other = steps other := by
    intro other member
    refine Function.update_of_ne ?_ _ _
    rintro rfl
    exact new member
  refine ⟨congrArg (id :: ·) ids, ?_, ?_, ?_, ?_, ?_⟩
  · intro other resident member
    rcases List.mem_cons.mp member with same | later
    · cases same
      exact ⟨cycled, List.mem_cons_self, by rwa [Function.update_self]⟩
    · obtain ⟨last, stands, ages⟩ := others other resident later
      rw [← apart other (List.mem_map_of_mem later)] at ages
      exact ⟨last, List.mem_cons_of_mem _ stands, ages⟩
  · rw [total, List.length_cons]
    omega
  · omega
  · simp only [resting, List.countP_cons, rests]
    omega
  · rw [evolutions, List.map_cons, List.map_cons, List.sum_cons, Function.update_self,
      List.map_congr_left apart, Nat.add_assoc]

variable {config : HabitatConfig} {now : Instant}

/-- Visiting residents one after the other is a walk. -/
theorem isWalk_traverseEntries {entries : List (OrganismId × Resident)}
    (unlike : (entries.map (·.1)).Nodup) (rng : Rng) (report : TickReport) :
    let visited := Directory.traverseEntries (visit config now) entries (rng, report)
    ∃ steps, IsWalk steps entries visited.1 report visited.2.2 := by
  induction entries generalizing rng report with
  | nil => exact ⟨fun _ => 0, IsWalk.nil _ report⟩
  | cons entry rest inductionHypothesis =>
      obtain ⟨id, r⟩ := entry
      obtain ⟨new, others⟩ := List.nodup_cons.mp unlike
      simp only [Directory.traverseEntries]
      generalize drawn : visit config now id r (rng, report) = visited
      unfold visit at drawn
      cases drawn
      obtain ⟨aged, rests⟩ := Resident.of_outcome (yields_run (r.cycle config now) rng)
      obtain ⟨steps, walk⟩ := inductionHypothesis others _ _
      exact ⟨_, walk.cons new aged rests⟩

variable {h later last : Habitat} {id : OrganismId}

/-- A cycle of all is a walk from an empty report to the one that it gives. -/
theorem isWalk_tick (h : Habitat) (now : Instant) :
    ∃ steps, IsWalk steps h.residents.entries (h.tick now).2.residents.entries TickReport.empty
      (h.tick now).1 :=
  isWalk_traverseEntries (Directory.nodup_keys Uuid.lt_irrefl _) h.rng TickReport.empty

theorem total_tick (h : Habitat) (now : Instant) : (h.tick now).1.total = h.residents.size := by
  obtain ⟨steps, walk⟩ := h.isWalk_tick now
  exact walk.total.trans (Nat.zero_add _)

theorem evolved_tick_le (h : Habitat) (now : Instant) :
    (h.tick now).1.evolved ≤ (h.tick now).1.ticked := by
  obtain ⟨steps, walk⟩ := h.isWalk_tick now
  have evolved := walk.evolved
  rwa [TickReport.empty, Nat.add_zero, Nat.zero_add] at evolved

/-- Who rests after a cycle of all is reported to rest, and nobody else. -/
theorem length_restingIds_tick (h : Habitat) (now : Instant) :
    (h.tick now).2.restingIds.length = (h.tick now).1.resting := by
  obtain ⟨steps, walk⟩ := h.isWalk_tick now
  rw [walk.resting, restingIds, List.length_map, ← List.countP_eq_length_filter]
  exact (Nat.zero_add _).symm

/-! ## Evolution -/

/-- The generations of all organisms together. -/
def generations (h : Habitat) : Nat := (h.organisms.map (·.state.generation.toNat)).sum

/-- The mutations of all organisms together. -/
def mutations (h : Habitat) : Nat := (h.organisms.map (·.state.mutations.toNat)).sum

/-- The same organisms, each of them so many steps of evolution later; all of the steps are
counted. -/
structure MaturesBy (steps : OrganismId → Nat) (h later : Habitat) : Prop where
  ids : later.ids = h.ids
  counted : later.counters.evolutions = h.counters.evolutions + (h.ids.map steps).sum
  aged : ∀ id o, h.find? id = some o →
    ∃ aged, later.find? id = some aged ∧ Organism.AgesBy (steps id) o aged

theorem MaturesBy.refl (h : Habitat) : MaturesBy (fun _ => 0) h h where
  ids := rfl
  counted := by
    have none : (h.ids.map fun _ => 0).sum = 0 := by simp
    rw [none, Nat.add_zero]
  aged _ o found := ⟨o, found, Organism.AgesBy.of_counts rfl rfl⟩

theorem MaturesBy.trans {first second : OrganismId → Nat} (before : MaturesBy first h later)
    (behind : MaturesBy second later last) :
    MaturesBy (fun id => first id + second id) h last where
  ids := behind.ids.trans before.ids
  counted := by
    rw [behind.counted, before.counted, before.ids, List.sum_map_add, Nat.add_assoc]
  aged id o found := by
    obtain ⟨middle, there, ages⟩ := before.aged id o found
    obtain ⟨aged, last, agesOn⟩ := behind.aged id middle there
    exact ⟨aged, last, ages.trans agesOn⟩

theorem maturesBy_tick (h : Habitat) (now : Instant) :
    ∃ steps, MaturesBy steps h (h.tick now).2 := by
  obtain ⟨steps, walk⟩ := h.isWalk_tick now
  refine ⟨steps, walk.ids, ?_, ?_⟩
  · show h.counters.evolutions + (h.tick now).1.evolved = _
    rw [walk.evolutions]
    exact congrArg _ (Nat.zero_add _)
  · intro id o found
    obtain ⟨r, there, rfl⟩ := Option.map_eq_some_iff.mp found
    obtain ⟨cycled, stands, ages⟩ := walk.aged id r (Directory.mem_of_lookup there)
    have last := Directory.find?_eq_some_of_mem Uuid.lt_irrefl stands
    exact ⟨cycled.organism, by rw [Habitat.find?, last]; rfl, ages⟩

/-- A resident that has evolved is put back. -/
theorem maturesBy_put {steps : Nat} {r aged : Resident}
    (found : h.residents.find? id = some r)
    (ages : Organism.AgesBy steps r.organism aged.organism)
    (residents : later.residents = h.residents.insert id aged)
    (counted : later.counters.evolutions = h.counters.evolutions + steps) :
    MaturesBy (Function.update (fun _ => 0) id steps) h later := by
  have kept : later.ids = h.ids := by
    obtain ⟨before, after, stood, stands⟩ := Directory.entries_insert_of_find?
      Uuid.lt_irrefl found aged
    rw [← residents] at stands
    rw [ids, ids, Directory.keys, Directory.keys, stood, stands, List.map_append, List.map_append]
    rfl
  have once : h.ids.count id = 1 := List.count_eq_one_of_mem
    (Directory.nodup_keys Uuid.lt_irrefl _)
    (Directory.contains_iff_mem_keys.mp (Directory.contains_iff.mpr ⟨r, found⟩))
  refine ⟨kept, ?_, ?_⟩
  · rw [counted, List.sum_map_eq_nsmul_single id _ fun other unlike _ =>
      Function.update_of_ne unlike _ _, once, one_nsmul, Function.update_self]
  · intro other o there
    rw [find?, residents, Directory.find?_insert]
    by_cases same : other = id
    · subst same
      rw [find?, found] at there
      cases there
      rw [if_pos rfl, Function.update_self]
      exact ⟨aged.organism, rfl, ages⟩
    · rw [if_neg same, Function.update_of_ne same]
      exact ⟨o, there, Organism.AgesBy.of_counts rfl rfl⟩

/-- The organisms are found under the ids, one after the other. -/
theorem organisms_eq (h : Habitat) : h.organisms = h.ids.filterMap h.find? := by
  have found : ∀ entry ∈ h.residents.entries, h.find? entry.1 = some entry.2.organism := by
    intro entry member
    rw [find?, Directory.find?_eq_some_of_mem Uuid.lt_irrefl member]
    rfl
  rw [organisms, ids, Directory.values, Directory.keys, List.filterMap_map, List.map_map,
    ← List.filterMap_eq_map]
  exact List.filterMap_congr fun entry member => (found entry member).symm

/-- If each organism has one of its counts increased by its steps, then the counts of all
together are increased by all steps. -/
theorem sum_eq_of_each {steps : OrganismId → Nat} (same : later.ids = h.ids)
    {count : Organism → Nat} (each : ∀ id o, h.find? id = some o →
      ∃ aged, later.find? id = some aged ∧ count aged = count o + steps id) :
    (later.organisms.map count).sum = (h.organisms.map count).sum + (h.ids.map steps).sum := by
  have registered : ∀ id ∈ h.ids, ∃ o, h.find? id = some o := by
    intro id member
    obtain ⟨r, found⟩ := Directory.contains_iff.mp (Directory.contains_of_mem_keys member)
    exact ⟨r.organism, by rw [find?, found]; rfl⟩
  rw [organisms_eq, organisms_eq, same]
  generalize h.ids = listed at registered
  induction listed with
  | nil => rfl
  | cons id rest inductionHypothesis =>
      obtain ⟨first, others⟩ := List.forall_mem_cons.mp registered
      obtain ⟨o, found⟩ := first
      obtain ⟨aged, last, counted⟩ := each id o found
      have behind := inductionHypothesis others
      simp only [List.filterMap_cons, found, last, List.map_cons, List.sum_cons, counted, behind]
      omega

/-- Where there is room for the steps in both counts of each organism, the counts of all together
are increased by all steps. -/
theorem MaturesBy.sum_counts {steps : OrganismId → Nat} (matures : MaturesBy steps h later) :
    ((∀ id o, h.find? id = some o → HasRoom o.state.generation (steps id)) →
      later.generations = h.generations + (h.ids.map steps).sum) ∧
    ((∀ id o, h.find? id = some o → HasRoom o.state.mutations (steps id)) →
      later.mutations = h.mutations + (h.ids.map steps).sum) := by
  constructor
  · intro room
    refine sum_eq_of_each matures.ids fun id o found => ?_
    obtain ⟨aged, last, -, generation⟩ := matures.aged id o found
    exact ⟨aged, last, by rw [generation, toNat_add_of_hasRoom (room id o found)]⟩
  · intro room
    refine sum_eq_of_each matures.ids fun id o found => ?_
    obtain ⟨aged, last, mutations, -⟩ := matures.aged id o found
    exact ⟨aged, last, by rw [mutations, toNat_add_of_hasRoom (room id o found)]⟩

end Habitat

end Vivarium
