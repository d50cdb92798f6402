import Vivarium.Proofs.Habitat.Ledger

/-!
# Records of cycles

A habitat counts the outcomes of cycles and forgets who met them.  A record keeps one cycle
of one resident: who it was, how it was before and after, and where the random stream stood.
The records of a cycle of all are taken along the same walk, each from where the stream was
left by the one before it, and the walk can be read off them again.

Main definitions:

* `CycleRecord`, `CycleRecord.IsRun`: a cycle on record, and that it went as recorded;
* `Linked`: records that lead from one value to another;
* `Habitat.tickLog`, `Habitat.executionLog`: the records of a cycle of all and of one.

Main statements:

* `Habitat.isChronicle_tick`: what a cycle of all comes to is on record;
* `Habitat.exists_own_tick`, `Habitat.own_execution`: the records of one resident.
-/

namespace Vivarium

/-! ## One record -/

namespace CycleOutcome

/-- The cycle was one of rest. -/
def rests : CycleOutcome → Bool
  | resting => true
  | resumed => true
  | _ => false

/-- The cycle was a tick, successful or not. -/
def ticks : CycleOutcome → Bool
  | ticked _ => true
  | failed => true
  | _ => false

theorem ticks_eq_not_rests (outcome : CycleOutcome) : outcome.ticks = !outcome.rests := by
  cases outcome <;> rfl

end CycleOutcome

/-- A cycle of a resident, with the random stream before and after it. -/
structure CycleRecord where
  id : OrganismId
  now : Instant
  before : Resident
  drawn : Rng
  outcome : CycleOutcome
  after : Resident
  left : Rng

namespace CycleRecord

/-- The record of a cycle that starts from a resident and a stream. -/
def take (config : HabitatConfig) (now : Instant) (id : OrganismId) (r : Resident) (rng : Rng) :
    CycleRecord :=
  let result := (r.cycle config now).run rng
  ⟨id, now, r, rng, result.1.2, result.1.1, result.2⟩

/-- The cycle went as it is recorded. -/
def IsRun (config : HabitatConfig) (record : CycleRecord) : Prop :=
  (record.before.cycle config record.now).run record.drawn =
    ((record.after, record.outcome), record.left)

variable {config : HabitatConfig} {record : CycleRecord}

theorem isRun_take (config : HabitatConfig) (now : Instant) (id : OrganismId) (r : Resident)
    (rng : Rng) : (take config now id r rng).IsRun config := rfl

theorem take_of_run {now : Instant} {id : OrganismId} {r cycled : Resident}
    {outcome : CycleOutcome} {rng left : Rng}
    (drawn : (r.cycle config now).run rng = ((cycled, outcome), left)) :
    take config now id r rng = ⟨id, now, r, rng, outcome, cycled, left⟩ := by
  unfold take
  rw [drawn]

theorem IsRun.yields (run : record.IsRun config) :
    (record.before.cycle config record.now).Yields (record.after, record.outcome) :=
  ⟨record.drawn, congrArg Prod.fst run⟩

/-- The cycle was one of rest: nothing was drawn, nothing but the energy has changed, and the
resident rests on unless it has enough to resume. -/
structure Rested (config : HabitatConfig) (record : CycleRecord) : Prop where
  outcome : record.outcome.rests = true
  stream : record.left = record.drawn
  organism : record.after.organism =
    { record.before.organism with
      state :=
        { record.before.organism.state with
          energy := clampUnit (record.before.organism.state.energy + config.regenerationRate) } }
  resting : record.after.resting = true ↔
    ¬config.resumeEnergy ≤ record.after.organism.state.energy

/-- The cycle was a tick, after which the resident has recovered if the tick has failed, and
does not rest. -/
structure Ticked (config : HabitatConfig) (record : CycleRecord) : Prop where
  outcome : record.outcome.ticks = true
  organism : ∃ ticked evolved,
    (record.before.organism.tick config record.now).run record.drawn =
        ((ticked, evolved), record.left) ∧
      (record.outcome = .failed ↔ evolved = none) ∧
      record.after.organism = if evolved.isSome then ticked else ticked.recover config
  resting : record.after.resting = false

theorem needsRest_iff {r : Resident} :
    r.needsRest config = true ↔
      r.resting = true ∨ r.organism.state.energy ≤ config.energyFloor := by
  rw [Resident.needsRest, Bool.or_eq_true, decide_eq_true_iff]

/-- Who needs rest has one cycle of it, -/
theorem IsRun.rested (run : record.IsRun config)
    (needs : record.before.needsRest config = true) : record.Rested config := by
  obtain ⟨id, now, r, drawn, outcome, cycled, left⟩ := record
  unfold IsRun Resident.cycle at run
  dsimp only at needs run
  rw [if_pos needs] at run
  obtain ⟨rested, rfl⟩ := Prod.mk.inj run
  unfold Resident.rest at rested
  dsimp only at rested
  split at rested
  · rename_i enough
    cases rested
    exact ⟨rfl, rfl, rfl, nofun, fun short => absurd enough short⟩
  · rename_i short
    cases rested
    exact ⟨rfl, rfl, rfl, fun _ => short, fun _ => rfl⟩

/-- and everybody else ticks. -/
theorem IsRun.ticked (run : record.IsRun config)
    (awake : record.before.needsRest config = false) : record.Ticked config := by
  obtain ⟨id, now, r, drawn, outcome, cycled, left⟩ := record
  have unmarked : r.resting = false := (Bool.or_eq_false_iff.mp awake).1
  unfold IsRun Resident.cycle at run
  dsimp only at awake run
  rw [if_neg (Bool.eq_false_iff.mp awake), StateT.run_bind] at run
  generalize ran : (r.organism.tick config now).run drawn = result at run
  obtain ⟨⟨ticked, evolved⟩, rng⟩ := result
  cases evolved with
  | none =>
      cases run
      exact ⟨rfl, ⟨ticked, none, ran, ⟨fun _ => rfl, fun _ => rfl⟩, rfl⟩, unmarked⟩
  | some evolved =>
      cases run
      exact ⟨rfl, ⟨ticked, some evolved, ran, ⟨nofun, nofun⟩, rfl⟩, unmarked⟩

/-- The records of one resident. -/
def own (id : OrganismId) (log : List CycleRecord) : List CycleRecord :=
  log.filter fun record => record.id = id

theorem own_append (id : OrganismId) (log more : List CycleRecord) :
    own id (log ++ more) = own id log ++ own id more := List.filter_append log more

theorem own_cons_self (record : CycleRecord) (rest : List CycleRecord) :
    own record.id (record :: rest) = record :: own record.id rest :=
  List.filter_cons_of_pos (decide_eq_true rfl)

theorem own_cons_of_ne {id : OrganismId} (other : record.id ≠ id) (rest : List CycleRecord) :
    own id (record :: rest) = own id rest :=
  List.filter_cons_of_neg (by simp [other])

theorem own_singleton (record : CycleRecord) : own record.id [record] = [record] :=
  own_cons_self record []

theorem own_eq_nil {id : OrganismId} {log : List CycleRecord}
    (missing : ∀ record ∈ log, record.id ≠ id) : own id log = [] :=
  List.filter_eq_nil_iff.mpr fun record member same =>
    missing record member (of_decide_eq_true same)

/-- Where each resident has one record, it is alone. -/
theorem own_eq_singleton {log : List CycleRecord} (distinct : (log.map (·.id)).Nodup)
    (member : record ∈ log) : own record.id log = [record] := by
  induction log with
  | nil => cases member
  | cons first rest inductionHypothesis =>
      rw [List.map_cons, List.nodup_cons] at distinct
      rcases List.mem_cons.mp member with rfl | later
      · rw [own_cons_self, own_eq_nil]
        intro other there same
        exact distinct.1 (same ▸ List.mem_map_of_mem there)
      · rw [own_cons_of_ne, inductionHypothesis distinct.2 later]
        intro same
        exact distinct.1 (same ▸ List.mem_map_of_mem later)

end CycleRecord

/-! ## Records in a row -/

/-- What enters the first record, what each one leaves for the next, and what the last one
leaves. -/
def Linked {α β : Type} (enter leave : β → α) : α → List β → α → Prop
  | first, [], last => first = last
  | first, record :: rest, last =>
      enter record = first ∧ Linked enter leave (leave record) rest last

namespace Linked

variable {α β : Type} {enter leave : β → α} {first middle last : α} {log more : List β}

theorem append (front : Linked enter leave first log middle)
    (behind : Linked enter leave middle more last) :
    Linked enter leave first (log ++ more) last := by
  induction log generalizing first with
  | nil =>
      obtain rfl : first = middle := front
      exact behind
  | cons record rest inductionHypothesis => exact ⟨front.1, inductionHypothesis front.2⟩

/-- Behind a record there are those that go on from what it leaves. -/
theorem behind {record : β} (linked : Linked enter leave first (log ++ record :: more) last) :
    Linked enter leave (leave record) more last := by
  induction log generalizing first with
  | nil => exact linked.2
  | cons _ _ inductionHypothesis => exact inductionHypothesis linked.2

theorem singleton (record : β) : Linked enter leave (enter record) [record] (leave record) :=
  ⟨rfl, rfl⟩

end Linked

/-! ## Walks on record -/

/-- The report with the outcomes of some records. -/
def TickReport.addAll (report : TickReport) (log : List CycleRecord) : TickReport :=
  log.foldl (fun report record => report.add record.outcome) report

namespace TickReport

variable (report : TickReport) (log : List CycleRecord)

/-- A figure that each outcome raises by one or leaves alone counts the records whose outcome
raises it. -/
theorem addAll_counts (figure : TickReport → Nat) (raises : CycleOutcome → Bool)
    (raised : ∀ report outcome,
      figure (report.add outcome) = figure report + if raises outcome then 1 else 0) :
    figure (report.addAll log) = figure report + log.countP (raises ·.outcome) := by
  induction log generalizing report with
  | nil => rfl
  | cons record rest inductionHypothesis =>
      rw [addAll, List.foldl_cons, ← addAll, inductionHypothesis, raised, List.countP_cons]
      omega

theorem addAll_ticked :
    (report.addAll log).ticked + (report.addAll log).failed =
      report.ticked + report.failed + log.countP (·.outcome.ticks) := by
  refine addAll_counts report log (fun r => r.ticked + r.failed) CycleOutcome.ticks ?_
  intro report outcome
  cases outcome <;>
  · simp only [add, CycleOutcome.ticks, if_true, if_false, Bool.false_eq_true]
    omega

theorem addAll_failed :
    (report.addAll log).failed =
      report.failed + log.countP (·.outcome = .failed) := by
  refine addAll_counts report log TickReport.failed (· = .failed) ?_
  intro report outcome
  cases outcome <;> rfl

theorem addAll_rests :
    (report.addAll log).resting + (report.addAll log).resumed =
      report.resting + report.resumed + log.countP (·.outcome.rests) := by
  refine addAll_counts report log (fun r => r.resting + r.resumed) CycleOutcome.rests ?_
  intro report outcome
  cases outcome <;>
  · simp only [add, CycleOutcome.rests, if_true, if_false, Bool.false_eq_true]
    omega

end TickReport

namespace Habitat

variable {config : HabitatConfig} {now : Instant}

/-- The records of a walk through some residents. -/
def walkLog (config : HabitatConfig) (now : Instant) :
    List (OrganismId × Resident) → Rng → List CycleRecord
  | [], _ => []
  | entry :: rest, rng =>
      let record := CycleRecord.take config now entry.1 entry.2 rng
      record :: walkLog config now rest record.left

/-- A walk through some residents went as it is recorded. -/
structure IsChronicle (config : HabitatConfig) (before after : List (OrganismId × Resident))
    (rng left : Rng) (report later : TickReport) (log : List CycleRecord) : Prop where
  /-- Each resident has one record, in order. -/
  before : log.map (fun record => (record.id, record.before)) = before
  after : log.map (fun record => (record.id, record.after)) = after
  stream : Linked CycleRecord.drawn CycleRecord.left rng log left
  report : later = report.addAll log
  runs : ∀ record ∈ log, record.IsRun config

/-- A walk is on record. -/
theorem isChronicle_traverseEntries (entries : List (OrganismId × Resident)) (rng : Rng)
    (report : TickReport) :
    let walked := Directory.traverseEntries (visit config now) entries (rng, report)
    IsChronicle config entries walked.1 rng walked.2.1 report walked.2.2
      (walkLog config now entries rng) := by
  induction entries generalizing rng report with
  | nil => exact ⟨rfl, rfl, rfl, rfl, List.forall_mem_nil _⟩
  | cons entry rest inductionHypothesis =>
      obtain ⟨id, r⟩ := entry
      obtain ⟨before, after, stream, reported, runs⟩ := inductionHypothesis
        (CycleRecord.take config now id r rng).left
        (report.add (CycleRecord.take config now id r rng).outcome)
      refine ⟨congrArg ((id, r) :: ·) before, ?_, ⟨rfl, stream⟩, reported, ?_⟩
      · exact congrArg ((id, (CycleRecord.take config now id r rng).after) :: ·) after
      · exact List.forall_mem_cons.mpr ⟨CycleRecord.isRun_take config now id r rng, runs⟩

/-- The records of a cycle of all. -/
def tickLog (h : Habitat) (now : Instant) : List CycleRecord :=
  walkLog h.config now h.residents.entries h.rng

/-- The record of a cycle of one organism; none if it is not registered. -/
def executionLog (h : Habitat) (now : Instant) (id : OrganismId) : List CycleRecord :=
  ((h.residents.find? id).map fun r => CycleRecord.take h.config now id r h.rng).toList

variable {h : Habitat} {id : OrganismId} {r : Resident}

theorem now_of_mem_walkLog {entries : List (OrganismId × Resident)} {rng : Rng}
    {record : CycleRecord} (member : record ∈ walkLog config now entries rng) :
    record.now = now := by
  induction entries generalizing rng with
  | nil => cases member
  | cons entry rest inductionHypothesis =>
      rcases List.mem_cons.mp member with rfl | later
      · rfl
      · exact inductionHypothesis later

theorem isChronicle_tick (h : Habitat) (now : Instant) :
    IsChronicle h.config h.residents.entries (h.tick now).2.residents.entries h.rng
      (h.tick now).2.rng TickReport.empty (h.tick now).1 (h.tickLog now) :=
  isChronicle_traverseEntries h.residents.entries h.rng TickReport.empty

theorem executionLog_of_find? (found : h.residents.find? id = some r) :
    h.executionLog now id = [CycleRecord.take h.config now id r h.rng] := by
  rw [executionLog, found]
  rfl

/-- A resident has one record of a cycle of all. -/
theorem exists_own_tick (found : h.residents.find? id = some r) (now : Instant) :
    ∃ record, CycleRecord.own id (h.tickLog now) = [record] ∧ record.before = r ∧
      record.IsRun h.config ∧ (h.tick now).2.residents.find? id = some record.after := by
  obtain ⟨before, after, -, -, runs⟩ := h.isChronicle_tick now
  have listed := Directory.mem_of_lookup found
  rw [← before] at listed
  obtain ⟨record, member, same⟩ := List.mem_map.mp listed
  obtain ⟨rfl, rfl⟩ := Prod.mk.inj same
  refine ⟨record, CycleRecord.own_eq_singleton ?_ member, rfl, runs record member, ?_⟩
  · have distinct := h.residents.nodup_keys Uuid.lt_irrefl
    rw [Directory.keys, ← before, List.map_map] at distinct
    exact distinct
  · refine Directory.find?_eq_some_of_mem Uuid.lt_irrefl ?_
    rw [← after]
    exact List.mem_map_of_mem member

/-- Who is executed has one record of it, and the others are left alone. -/
theorem own_execution {key : OrganismId} {s cycled : Resident} {outcome : CycleOutcome}
    {rng : Rng} (there : h.residents.find? key = some s)
    (drawn : (s.cycle h.config now).run h.rng = ((cycled, outcome), rng))
    (found : h.residents.find? id = some r) :
    let later := h.residents.insert key cycled
    (CycleRecord.own id (h.executionLog now key) = [] ∧ later.find? id = some r) ∨
      ∃ record, CycleRecord.own id (h.executionLog now key) = [record] ∧ record.before = r ∧
        record.IsRun h.config ∧ later.find? id = some record.after := by
  rw [executionLog_of_find? there, CycleRecord.take_of_run drawn]
  by_cases here : key = id
  · subst here
    obtain rfl : r = s := Option.some.inj (found.symm.trans there)
    exact .inr ⟨_, CycleRecord.own_singleton _, rfl, drawn, Directory.find?_insert_self _ _ _⟩
  · rw [CycleRecord.own_cons_of_ne here]
    exact .inl ⟨rfl, (Directory.find?_insert_of_ne _ _ (Ne.symm here)).trans found⟩

end Habitat

end Vivarium
