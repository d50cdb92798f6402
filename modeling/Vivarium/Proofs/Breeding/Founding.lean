import Vivarium.Proofs.Breeding.Soundness
import Vivarium.Proofs.Organism.Age
import Vivarium.Proofs.Organism.Bounds

/-!
# The founding of a population

A population is founded with seeds and filled up with clones of them.  The seeds come first,
in the order in which they are given, and stay what they are but for values out of range.
Unlike organisms that are moved together, seeds may have ids in common; then the first one
keeps the id, and what becomes of a seed depends on those in front of it.

Clones are drawn of the seeds as they were given, and not as they were enrolled.  A clone of a
seed with values out of range is normal nevertheless, because its mutation ends in normalizing.
It is a generation on from the seed, unless the generation of the seed is the last that can be
counted.

Main definitions:

* `SettleInTurn`: what becomes of organisms that come one after the other;
* `Organism.IsRecordedClone`: a clone with its event;
* `Nursery.IsFounding`: what the founding of a population comes to.

Main statements:

* `enrollAll_settles`: organisms that are enrolled one after the other;
* `Nursery.createPopulation_isFounding`: a population under a new name.
-/

namespace Vivarium

open Number

/-! ## Seeds -/

/-- Organisms come one after the other to a place that holds some ids.  Each of them is
normalized, and is given a fresh id if its own is held already, be it by one who came before. -/
structure SettleInTurn (held : List OrganismId) (fresh : OrganismId → Prop)
    (organisms members : List Organism) : Prop where
  length : members.length = organisms.length
  each : ∀ {place : Nat} {o member : Organism},
    organisms[place]? = some o → members[place]? = some member →
    o.normalize.SettlesAs (· ∈ held ++ (members.take place).map (·.id)) fresh member

theorem SettleInTurn.nil (held : List OrganismId) (fresh : OrganismId → Prop) :
    SettleInTurn held fresh [] [] :=
  ⟨rfl, nofun⟩

theorem SettleInTurn.mono {held : List OrganismId} {fresh later : OrganismId → Prop}
    {organisms members : List Organism} (settled : SettleInTurn held later organisms members)
    (wider : ∀ {id}, later id → fresh id) : SettleInTurn held fresh organisms members where
  length := settled.length
  each came stands :=
    (settled.each came stands).imp_right fun ⟨taken, given, same⟩ => ⟨taken, wider given, same⟩

/-- One organism comes first, and the others find it there. -/
theorem SettleInTurn.cons {held : List OrganismId} {fresh : OrganismId → Prop}
    {o member : Organism} {organisms members : List Organism}
    (first : o.normalize.SettlesAs (· ∈ held) fresh member)
    (others : SettleInTurn (held ++ [member.id]) fresh organisms members) :
    SettleInTurn held fresh (o :: organisms) (member :: members) where
  length := congrArg (· + 1) others.length
  each := by
    rintro (_ | place) x y came settled
    · cases came
      cases settled
      rw [List.take_zero, List.map_nil, List.append_nil]
      exact first
    · have settles := others.each came settled
      rwa [List.append_assoc, List.singleton_append] at settles

/-- Organisms that are enrolled stand behind the others in the order in which they come. -/
theorem enrollAll_settles (p : Population) (supply : IdSupply) (organisms : List Organism) :
    ∃ members later,
      Nursery.enrollAll p supply organisms =
        (members.map (·.id), { p with organisms := p.organisms ++ members }, later) ∧
        SettleInTurn p.ids (supply.Pending later.issued) organisms members := by
  induction organisms generalizing p supply with
  | nil =>
      refine ⟨[], supply, ?_, SettleInTurn.nil _ _⟩
      simp only [Nursery.enrollAll, List.map_nil, List.append_nil]
  | cons o rest inductionHypothesis =>
      obtain ⟨member, middle, enters, enrolled⟩ := p.enroll_enters supply o
      obtain ⟨members, later, others, settled⟩ :=
        inductionHypothesis { p with organisms := p.organisms ++ [member] } middle
      have advances : middle.Advances later := by
        have advances := enrollAll_advances { p with organisms := p.organisms ++ [member] } middle
          rest
        rwa [others] at advances
      have ids : ({ p with organisms := p.organisms ++ [member] } : Population).ids =
          p.ids ++ [member.id] := List.map_append
      rw [ids] at settled
      refine ⟨member :: members, later, ?_, ?_⟩
      · simp only [Nursery.enrollAll, enrolled, others, List.map_cons, List.append_assoc,
          List.cons_append, List.nil_append]
      · exact SettleInTurn.cons (enters.settlesAs advances)
          (settled.mono (IdSupply.Pending.of_advances enters.advances))

/-! ## Clones -/

/-- The organism is a clone of a seed under a new id, born now and a generation on, with one
mutation more; the event announces it.  Each count is one more as long as it does not start over. -/
structure Organism.IsRecordedClone (population : String) (now : Instant)
    (seed clone : Organism) (event : Event) : Prop where
  announced : event.Announces population now seed clone
  generation : HasRoom seed.state.generation 1 →
    clone.state.generation.toNat = seed.state.generation.toNat + 1
  mutations : HasRoom seed.state.mutations 1 →
    clone.state.mutations.toNat = seed.state.mutations.toNat + 1
  times : clone.createdAt = now ∧ clone.lastEvolutionAt = none
  kept : clone.name = seed.name ∧ clone.workflow = seed.workflow ∧
    clone.evolution = seed.evolution

theorem Event.Announces.isRecordedClone {event : Event} {population : String} {now : Instant}
    {seed clone : Organism} (announces : event.Announces population now seed clone) :
    Organism.IsRecordedClone population now seed clone event := by
  have told := announces
  obtain ⟨kind, -, outcome, mutated, possible, same, -⟩ := announces
  obtain ⟨body, rfl, mutations, generation⟩ := Mutation.eq_withBody_of_yields_apply possible
  exact
    { announced := told
      generation := by
        intro room
        rw [same]
        exact (congrArg UInt64.toNat generation).trans (toNat_succ_of_hasRoom room)
      mutations := by
        intro room
        rw [same]
        exact (congrArg UInt64.toNat mutations).trans (toNat_succ_of_hasRoom room)
      times := by
        rw [same]
        exact ⟨rfl, rfl⟩
      kept := by
        rw [same]
        exact ⟨rfl, rfl, rfl⟩ }

namespace Nursery

/-! ## The founding -/

/-- The founding of a population came to this: its members are the seeds, and clones behind
them, which are recorded. -/
structure IsFounding (n : Nursery) (supply : IdSupply) (name : String) (seeds : List Organism)
    (strategy : Strategy) (now : Instant) (members clones : List Organism)
    (events : List Event) (p : Population) (after : Nursery) (later : IdSupply) : Prop where
  population : p =
    { name := name
      strategy := strategy.name
      organisms := members ++ clones
      createdAt := now
      cycles := 0
      metrics := Metrics.measure (members ++ clones) n.config.speciesBucketWidth }
  size : p.size = max seeds.length strategy.populationSize
  /-- The seeds come first and in order, each with its own id unless one before it has it. -/
  settled : SettleInTurn [] (supply.Pending later.issued) seeds members
  /-- Seeds with ids of their own and no value out of range are kept as they are. -/
  verbatim : (seeds.map (·.id)).Nodup →
    (∀ seed ∈ seeds, ∀ value ∈ seed.state.vitals, 0.0 ≤ value ∧ value ≤ 1.0) → members = seeds
  /-- Each clone is made of one of the seeds, and its event stands where it does. -/
  recorded : List.Forall₂
    (fun clone event => ∃ seed ∈ seeds, Organism.IsRecordedClone name now seed clone event)
    clones events
  fresh : ∀ clone ∈ clones, supply.Pending later.issued clone.id
  /-- No two organisms of the population have one id. -/
  unlike : p.ids.Nodup
  /-- The events are recorded in order, and no other population is touched. -/
  nursery : ∃ rng, after =
    { n with
      populations := n.populations.insert name p
      rng := rng
      counters := { n.counters with mutations := n.counters.mutations + events.length }
      history := n.history.pushAll events }

variable {n : Nursery} {name strategyName : String} {strategy : Strategy}
  {seeds : List Organism} {supply : IdSupply} {limit : Nat}

/-- Seeds that no one has to make room for are kept as they are. -/
theorem members_eq_of_free {members : List Organism} {later : IdSupply} {empty : Population}
    (nobody : empty.organisms = [])
    (enrolled : enrollAll empty supply seeds =
      (members.map (·.id), { empty with organisms := empty.organisms ++ members }, later))
    (unlike : (seeds.map (·.id)).Nodup)
    (inside : ∀ seed ∈ seeds, ∀ value ∈ seed.state.vitals, 0.0 ≤ value ∧ value ≤ 1.0) :
    members = seeds := by
  have free : ∀ o ∈ seeds, o.id ∉ empty.ids := by
    intro o _
    rw [Population.ids, nobody]
    exact List.not_mem_nil
  rw [enrollAll_of_free unlike free] at enrolled
  have normalized : seeds.map (·.normalize) = members :=
    List.append_cancel_left (congrArg (fun result => result.2.1.organisms) enrolled)
  have unchanged : ∀ seed ∈ seeds, seed.normalize = seed := fun seed member =>
    Organism.normalize_eq_self.mpr (Organism.isNormal_of_vitals (inside seed member))
  rw [← normalized, List.map_congr_left unchanged, List.map_id']

theorem withNewPopulation_isFounding (n : Nursery) (name : String) (strategy : Strategy)
    (now : Instant) (nonempty : seeds ≠ []) (distinct : supply.DistinctUpTo limit)
    (entering : ∀ seed ∈ seeds, ¬supply.Pending limit seed.id)
    (room : supply.issued + max seeds.length strategy.populationSize ≤ limit) :
    let founded := n.withNewPopulation supply name seeds strategy now
    ∃ members clones events, IsFounding n supply name seeds strategy now members clones events
      founded.1 (founded.2.1.put name founded.1) founded.2.2 := by
  let empty := Population.founded name strategy.name now
  obtain ⟨members, middle, enrolled, settled⟩ := enrollAll_settles empty supply seeds
  let stock : Population := { empty with organisms := empty.organisms ++ members }
  have advances := enrollAll_advances empty supply seeds
  have few := issued_enrollAll_le empty supply seeds
  have sound : AreSound stock.organisms middle limit := by
    have nobody : AreSound empty.organisms supply limit := AreSound.nil supply limit
    have sound := nobody.enrollAll distinct entering (by omega)
    rwa [enrolled] at sound
  rw [enrolled] at advances few
  dsimp only at few
  have later := distinct.of_advances advances
  have counted : stock.size = seeds.length := settled.length
  -- what is left to fill up is what the seeds leave of the size, if they leave anything
  have space : middle.issued + (strategy.populationSize - stock.size) ≤ limit := by omega
  obtain ⟨clones, events, rng, filled, missing, ids, announced⟩ :=
    fill_eq n now later (fun _ => sound.not_pending) (by rwa [if_neg nonempty])
  rw [if_neg nonempty] at missing
  have last := middle.advances_skip clones.length
  have founded : n.withNewPopulation supply name seeds strategy now =
      n.fill stock seeds strategy.populationSize now middle := by
    rw [withNewPopulation, enrolled]
  rw [founded, filled]
  refine ⟨members, clones, events, ?_⟩
  exact {
    population := rfl
    size := by
      show (stock.organisms ++ clones).length = _
      rw [List.length_append, missing]
      show stock.size + (strategy.populationSize - stock.size) = _
      omega
    settled := settled.mono (IdSupply.Pending.mono · last.issued)
    verbatim := members_eq_of_free rfl enrolled
    recorded := announced.imp fun clone event told =>
      told.imp fun seed => And.imp_right Event.Announces.isRecordedClone
    fresh := by
      intro clone member
      have given : clone.id ∈ middle.upcoming clones.length :=
        ids ▸ List.mem_map_of_mem member
      exact (IdSupply.mem_upcoming.mp given).of_advances advances
    unlike := by
      have normal : ∀ clone ∈ clones, clone.IsNormal := by
        intro clone member
        obtain ⟨seed, -, kinship⟩ := isCloneOf_of_announced announced clone member
        exact kinship.isNormal
      exact (sound.append_fresh later ids normal (missing ▸ space)).ids
    nursery := ⟨rng, rfl⟩ }

/-- **Creating a population.**  A request for a population under a new name, with seeds and with
a strategy that is known, succeeds.  All that is asked for the ids is that those which are given
out differ from each other and from those of the seeds. -/
theorem createPopulation_isFounding (now : Instant)
    (known : n.strategies.find? strategyName = some strategy) (nonempty : seeds ≠ [])
    (new : n.populations.find? name = none) (distinct : supply.DistinctUpTo limit)
    (entering : ∀ seed ∈ seeds, ¬supply.Pending limit seed.id)
    (room : supply.issued + max seeds.length strategy.populationSize ≤ limit) :
    ∃ members clones events p after later,
      n.createPopulation supply name seeds strategyName now = .ok (p.metrics, after, later) ∧
        IsFounding n supply name seeds strategy now members clones events p after later := by
  obtain ⟨members, clones, events, founding⟩ :=
    withNewPopulation_isFounding n name strategy now nonempty distinct entering room
  exact ⟨members, clones, events, _, _, _, createPopulation_of_new known nonempty new rfl,
    founding⟩

/-- Two organisms of one id, the second of them with values out of range, found a pond. -/
theorem createPopulation_isFounding_twins :
    let n := founded NurseryConfig.standard (Rng.ofSeed 7)
    let first : Organism := { Organism.newborn "newt" ⟨0, 0⟩ with id := ⟨1000⟩ }
    let second : Organism := { first with state := { first.state with energy := 2.0 } }
    ∃ members clones events p after later,
      n.createPopulation IdSupply.numbered "pond" [first, second] "balanced" ⟨1, 0⟩ =
          .ok (p.metrics, after, later) ∧
        IsFounding n IdSupply.numbered "pond" [first, second] Strategy.balanced ⟨1, 0⟩ members
          clones events p after later := by
  intro n first second
  have unlike : ∀ seed ∈ [first, second], ¬IdSupply.numbered.Pending 100 seed.id := by
    rintro seed member ⟨k, -, below, given⟩
    have id : seed.id = ⟨1000⟩ := by
      rcases List.mem_pair.mp member with rfl | rfl <;> rfl
    rw [id] at given
    have small : k % 2 ^ 128 = 1000 := congrArg (fun id : OrganismId => id.bits.toNat) given
    omega
  exact createPopulation_isFounding ⟨1, 0⟩ rfl (List.cons_ne_nil _ _) rfl
    (IdSupply.numbered_distinct (by decide)) unlike (by decide)

/-- A seed in its last generation founds a pond, and its clone is of generation zero. -/
theorem not_generation_elder :
    let n := founded NurseryConfig.standard (Rng.ofSeed 7)
    let elder : Organism :=
      { Organism.newborn "newt" ⟨0, 0⟩ with
        id := ⟨1000⟩
        state.generation := 0xffffffffffffffff }
    ∃ p after later,
      n.createPopulation IdSupply.numbered "pond" [elder] "conservative" ⟨1, 0⟩ =
          .ok (p.metrics, after, later) ∧
        after.populations.find? "pond" = some p ∧ 1 < p.organisms.length ∧
        ∀ clone ∈ p.organisms.drop 1, clone.state.generation = 0 ∧
          clone.state.generation.toNat ≠ elder.state.generation.toNat + 1 := by
  intro n elder
  have known : n.strategies.find? "conservative" = some Strategy.conservative := rfl
  have new : n.populations.find? "pond" = none := rfl
  obtain ⟨founded, filling⟩ : ∃ founded, n.withNewPopulation IdSupply.numbered "pond" [elder]
      Strategy.conservative ⟨1, 0⟩ = founded := ⟨_, rfl⟩
  have many : 1 < founded.1.organisms.length := by
    rw [← filling]
    decide +kernel
  have spent : ∀ clone ∈ founded.1.organisms.drop 1, clone.state.generation = 0 ∧
      clone.state.generation.toNat ≠ elder.state.generation.toNat + 1 := by
    rw [← filling]
    decide +kernel
  exact ⟨founded.1, _, _, createPopulation_of_new known (List.cons_ne_nil _ _) new filling,
    find?_put_self _ _ _, many, spent⟩

end Nursery

end Vivarium
