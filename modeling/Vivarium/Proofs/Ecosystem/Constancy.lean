import Vivarium.Proofs.Ecosystem.Failure
import Vivarium.Proofs.Organism.Constancy

/-!
# Constancy over a run

Cycles and steps of evolution let nobody in and nobody out, and they keep the design of every
organism.  What they do to the contributions of genes can be seen on the records: one is moved
in a cycle at most, and if the cycle has failed, those are mended that were no finite numbers.

Nothing is asked of the ecosystem that a run starts from; its organisms may be as corrupt as
they like.

Main statements:

* `CycleRecord.IsRun.oneMoved`, `CycleRecord.IsRun.getElem?_of_failed`: one cycle;
* `Resident.Lives.design`: the life of a resident;
* `Ecosystem.Logged.lives`: who is there stays and lives by its records;
* `Ecosystem.running_keeps_design`: all of it over a run.
-/

namespace Vivarium

/-! ## Cycles on record -/

namespace CycleRecord

variable {config : HabitatConfig} {record : CycleRecord}

theorem IsRun.design (run : record.IsRun config) :
    record.after.organism.design = record.before.organism.design :=
  (Organism.keptInCycles_design config record.now _).cycle rfl run.yields

theorem Rested.genes (rested : record.Rested config) :
    record.after.organism.genes = record.before.organism.genes := by rw [rested.organism]

/-- A cycle that does not fail moves the contribution of one gene at most. -/
theorem IsRun.oneMoved (run : record.IsRun config) (succeeded : record.outcome ≠ .failed) :
    Gene.OneMoved record.before.organism.genes record.after.organism.genes := by
  cases needs : record.before.needsRest config with
  | true =>
      rw [(run.rested needs).genes]
      exact .refl _
  | false =>
      obtain ⟨ticked, evolved, ran, fails, same⟩ := (run.ticked needs).organism
      cases evolved with
      | none => exact absurd (fails.mpr rfl) succeeded
      | some evolves =>
          have possible : (record.before.organism.tick config record.now).Yields
              (ticked, some evolves) := ⟨record.drawn, congrArg Prod.fst ran⟩
          rw [same]
          exact Organism.oneMoved_of_yields_tick possible

/-- A cycle that fails leaves alone what was a finite number. -/
theorem IsRun.getElem?_of_failed (run : record.IsRun config) (failed : record.outcome = .failed)
    {place : Nat} {gene : Gene} (found : record.before.organism.genes[place]? = some gene)
    (finite : gene.IsFinite) : record.after.organism.genes[place]? = some gene := by
  cases needs : record.before.needsRest config with
  | true =>
      rw [(run.rested needs).genes]
      exact found
  | false =>
      obtain ⟨ticked, evolved, ran, fails, same⟩ := (run.ticked needs).organism
      obtain rfl : evolved = none := fails.mp failed
      have possible : (record.before.organism.tick config record.now).Yields (ticked, none) :=
        ⟨record.drawn, congrArg Prod.fst ran⟩
      rcases Organism.of_yields_tick possible with
        ⟨-, fitness, coherence, rfl⟩ | ⟨_, _, ⟨-, impossible⟩ | ⟨_, -, impossible⟩⟩
      · -- the tick has not come to the genes before it failed
        rw [same]
        exact Organism.getElem?_genes_recover found finite
      · cases impossible
      · cases impossible

end CycleRecord

/-- The design of a resident is that of its whole life. -/
theorem Resident.Lives.design {r later : Resident} {own : List CycleRecord}
    (lives : r.Lives own later) : later.organism.design = r.organism.design := by
  induction lives with
  | start => rfl
  | evolved _ drawn inductionHypothesis =>
      exact (Organism.design_of_yields_evolve drawn).trans inductionHypothesis
  | cycled _ run inductionHypothesis => exact run.design.trans inductionHypothesis

namespace Ecosystem

variable {e later : Ecosystem} {exchanges : List Exchange} {records : List CycleRecord}
  {id : OrganismId} {r : Resident}

/-! ## Runs -/

/-- Cycles and steps of evolution let nobody go, and give out no ids. -/
theorem Effect.stays {α : Type} {now : Instant} {request : Request α} {answer : α}
    (effect : e.Effect now request answer later) (cycle : request.IsCycle)
    (held : e.habitat.contains id = true) :
    later.habitat.contains id = true ∧ ¬e.supply.Pending later.supply.issued id := by
  have idle : ¬e.supply.Pending e.supply.issued id :=
    IdSupply.not_pending_of_le (Nat.le_refl _)
  constructor
  · obtain ⟨steps, matures⟩ := effect.matures cycle
    have same : later.habitat.residents.keys = e.habitat.residents.keys := matures.ids
    rw [Habitat.contains, Directory.contains_iff_mem_keys] at held ⊢
    rw [same]
    exact held
  · cases effect with
    | execute => exact idle
    | evolve => exact idle
    | tick => exact idle
    | _ => exact absurd cycle not_false

/-- Over cycles and steps of evolution an organism stays, and lives by its records. -/
theorem Logged.lives (logged : Logged e exchanges records later)
    (cycling : ∀ x ∈ exchanges, x.request.IsCycle)
    (found : e.habitat.residents.find? id = some r) :
    ∃ changed, later.habitat.residents.find? id = some changed ∧
      r.Lives (CycleRecord.own id records) changed := by
  induction logged with
  | start => exact ⟨r, found, .start⟩
  | @step exchanges records middle last x before served inductionHypothesis =>
      obtain ⟨earlier, final⟩ := List.forall_mem_append.mp cycling
      have cycle := List.forall_mem_singleton.mp final
      obtain ⟨between, there, lives⟩ := inductionHypothesis earlier
      have held : middle.habitat.contains id = true := Directory.contains_iff.mpr ⟨between, there⟩
      rw [CycleRecord.own_append]
      rcases of_served served with ⟨answer, -, effect⟩ | ⟨fault, -, failed, rfl⟩
      · obtain ⟨stays, fresh⟩ := effect.stays cycle held
        obtain ⟨changed, still, livesOn⟩ :=
          effect.lives cycle.not_modifies there stays fresh
        exact ⟨changed, still, lives.trans livesOn⟩
      · rw [log_of_error failed]
        exact ⟨between, there, lives.trans .start⟩

/-- **Running keeps the design.**  A run of cycles and steps of evolution, from whatever state
on, leaves the same ids registered, and each organism with the name, the workflow, the settings
of its evolution and the time of birth that it had, and with the same genes in the same order
but for what they contribute.  The cycles that were counted are all on record: one that has not
failed moves the contribution of one gene of its organism at most, as does a step of evolution
that is forced, and one that has failed leaves alone whatever was a finite number. -/
theorem running_keeps_design (logged : Logged e exchanges records later)
    (cycling : ∀ x ∈ exchanges, x.request.IsCycle) :
    later.habitat.ids = e.habitat.ids ∧
    (∀ id r, e.habitat.residents.find? id = some r →
      ∃ changed, later.habitat.residents.find? id = some changed ∧
        changed.organism.design = r.organism.design ∧
        r.Lives (CycleRecord.own id records) changed) ∧
    HabitatCounters.Counts records e.habitat.counters later.habitat.counters ∧
    (∀ record ∈ records, record.after.organism.design = record.before.organism.design ∧
      (record.outcome ≠ .failed →
        Gene.OneMoved record.before.organism.genes record.after.organism.genes) ∧
      (record.outcome = .failed → ∀ (place : Nat) (gene : Gene),
        record.before.organism.genes[place]? = some gene →
        Number.isFinite gene.contribution = true →
        record.after.organism.genes[place]? = some gene)) ∧
    ∀ (o evolved : Organism) now outcome, (o.evolve now).Yields (evolved, outcome) →
      Gene.OneMoved o.genes evolved.genes := by
  refine ⟨?_, ?_, logged.counts, ?_, ?_⟩
  · obtain ⟨steps, matures⟩ := logged.course.matures cycling
    exact matures.ids
  · intro id r found
    obtain ⟨changed, last, lives⟩ := logged.lives cycling found
    exact ⟨changed, last, lives.design, lives⟩
  · intro record member
    have run := logged.runs record member
    exact ⟨run.design, run.oneMoved, fun failed _ _ => run.getElem?_of_failed failed⟩
  · intro o evolved now outcome possible
    exact Organism.oneMoved_of_yields_evolve possible

/-- The blighted newt fails in a cycle, is made to evolve, and goes through another cycle.  It
is still the newt, with the one gene. -/
theorem running_keeps_design_blighted :
    let lair := (wasteland.registered blighted).2
    ∃ exchanges records later, Logged lair exchanges records later ∧ exchanges.length = 3 ∧
      (∃ record ∈ records, record.outcome = .failed) ∧
      later.habitat.ids = lair.habitat.ids ∧
      ∃ changed, later.habitat.residents.find? newt.id = some changed ∧
        changed.organism.design = blighted.design := by
  intro lair
  have resident : lair.habitat.residents.find? newt.id = some ⟨blighted.normalize, false⟩ := by
    decide +kernel
  have ticked : lair.Effect ⟨0, 0⟩ .tick _ _ := .tick
  have held := (ticked.stays trivial (Directory.contains_iff.mpr ⟨_, resident⟩)).1
  generalize dawn : ({ lair with habitat := (lair.habitat.tick ⟨0, 0⟩).2 } : Ecosystem) = day
    at ticked held
  obtain ⟨healed, there⟩ := Directory.contains_iff.mp held
  obtain ⟨dusk, evolves, evolved⟩ : ∃ dusk evolves,
      day.Effect ⟨1, 0⟩ (.evolve newt.id) evolves dusk := ⟨_, _, .evolve there rfl⟩
  obtain ⟨grown, stillThere⟩ := Directory.contains_iff.mp (evolved.stays trivial held).1
  obtain ⟨night, executed⟩ : ∃ night, dusk.Effect ⟨2, 0⟩ (.execute newt.id) () night :=
    ⟨_, .execute stillThere rfl⟩
  have logged := ((Logged.start.step (serves_of_effect ticked)).step
    (serves_of_effect evolved)).step (serves_of_effect executed)
  have cycling : ∀ x ∈ [] ++ [Exchange.granted ⟨0, 0⟩ .tick (lair.habitat.tick ⟨0, 0⟩).1] ++
      [Exchange.granted ⟨1, 0⟩ (.evolve newt.id) evolves] ++
      [Exchange.granted ⟨2, 0⟩ (.execute newt.id) ()], x.request.IsCycle := by
    intro x member
    simp only [List.nil_append, List.mem_append, List.mem_singleton] at member
    rcases member with (rfl | rfl) | rfl <;> exact trivial
  obtain ⟨ids, kept, -⟩ := running_keeps_design logged cycling
  obtain ⟨changed, last, design, -⟩ := kept newt.id _ resident
  obtain ⟨record, member, failed⟩ : ∃ record ∈ lair.habitat.tickLog ⟨0, 0⟩,
      record.outcome = .failed := by decide +kernel
  refine ⟨_, _, _, logged, rfl, ⟨record, ?_, failed⟩, ids, changed, last, design⟩
  exact List.mem_append_left _ (List.mem_append_left _ (List.mem_append_right _ member))

end Ecosystem

end Vivarium
