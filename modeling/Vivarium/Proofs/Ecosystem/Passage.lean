import Vivarium.Ecosystem
import Vivarium.Proofs.Habitat.Soundness
import Vivarium.Proofs.Listing

/-!
# Organisms on their way

The two walks of a transfer go through a list of ids: one takes organisms out of the
habitat, the other takes them out of a population and registers each at once.  What a
walk takes is what was held under the listed ids before it started, in the order in
which they are listed first; an id that is listed again finds nothing.

Main definitions:

* `IsTaking`: what is taken from a habitat, and what is left;
* `IsArrival`: what comes to a habitat.

Main statements:

* `map_id_filterMap`: organisms looked up under the ids that they have;
* `takeAll_isTaking`, `releaseEach_eq`: the two walks;
* `harvest_eq`, `release_eq`: the checks of a transfer, and what it comes to.
-/

namespace Vivarium

/-! ## Looking up organisms -/

/-- Organisms that are found under the ids that they have. -/
theorem map_id_filterMap {find : OrganismId → Option Organism} {ids : List OrganismId}
    (found : ∀ id ∈ ids, ∃ o, find id = some o ∧ o.id = id) :
    (ids.filterMap find).map (·.id) = ids := by
  induction ids with
  | nil => rfl
  | cons id rest inductionHypothesis =>
      obtain ⟨o, here, keyed⟩ := found id List.mem_cons_self
      rw [List.filterMap_cons_some here, List.map_cons, keyed,
        inductionHypothesis fun x member => found x (List.mem_cons_of_mem _ member)]

namespace Population

variable {p : Population} {id : OrganismId} {o : Organism}

theorem id_of_find? (found : p.find? id = some o) : o.id = id :=
  of_decide_eq_true (List.find?_some (p := fun o : Organism => decide (o.id = id)) found)

theorem mem_of_find? (found : p.find? id = some o) : o ∈ p.organisms :=
  List.mem_of_find?_eq_some found

theorem find?_eq_none_iff : p.find? id = none ↔ id ∉ p.ids := by
  simp [find?, ids]

theorem contains_iff_find? : p.contains id = true ↔ ∃ o, p.find? id = some o := by
  rw [← Option.isSome_iff_exists, ← Option.not_isNone, Bool.not_eq_true', ← Bool.not_eq_true,
    Option.isNone_iff_eq_none, find?_eq_none_iff, Classical.not_not]
  exact List.contains_iff_mem

/-- The population without the organisms of some ids. -/
def without (p : Population) (ids : List OrganismId) : Population :=
  { p with organisms := p.organisms.filter fun o => o.id ∉ ids }

theorem find?_without (p : Population) (ids : List OrganismId) (id : OrganismId) :
    (p.without ids).find? id = if id ∈ ids then none else p.find? id := by
  simp only [find?, without, List.find?_filter]
  by_cases gone : id ∈ ids
  · rw [if_pos gone, List.find?_eq_none]
    intro o _
    simp only [decide_eq_true_eq, not_and]
    rintro stays rfl
    exact stays gone
  · rw [if_neg gone]
    congr 1
    funext o
    by_cases same : o.id = id
    · simp [same, gone]
    · simp [same]

theorem without_without (p : Population) (first second : List OrganismId) :
    (p.without first).without second = p.without (first ++ second) := by
  simp only [without, List.filter_filter, Population.mk.injEq, true_and, and_true]
  refine List.filter_congr ?_
  intro o _
  simp only [List.mem_append, not_or, Bool.decide_and, Bool.and_comm]

theorem without_of_find?_eq_none (missing : p.find? id = none) : p.without [id] = p := by
  obtain ⟨name, strategy, organisms, createdAt, cycles, metrics⟩ := p
  simp only [without, Population.mk.injEq, true_and, and_true]
  refine List.filter_eq_self.mpr ?_
  intro o member
  have unlike := List.find?_eq_none.mp missing o member
  simpa using unlike

/-- Without repetition there is one organism to be taken under an id. -/
theorem eraseP_eq_filter {organisms : List Organism} (unlike : (organisms.map (·.id)).Nodup)
    (id : OrganismId) :
    (organisms.eraseP fun o => o.id = id) = organisms.filter fun o => o.id ∉ [id] := by
  induction organisms with
  | nil => rfl
  | cons first rest inductionHypothesis =>
      obtain ⟨apart, unlike⟩ := List.nodup_cons.mp unlike
      by_cases here : first.id = id
      · -- ids differ, so that no other organism is filtered out
        have others : ∀ o ∈ rest, o.id ∉ [id] := by
          intro o member same
          refine apart (List.mem_map.mpr ⟨o, member, ?_⟩)
          exact (List.mem_singleton.mp same).trans here.symm
        rw [List.eraseP_cons_of_pos (by simpa using here),
          List.filter_cons_of_neg (by simpa using here)]
        exact (List.filter_eq_self.mpr fun o member => decide_eq_true (others o member)).symm
      · rw [List.eraseP_cons_of_neg (by simpa using here),
          List.filter_cons_of_pos (by simpa using here), inductionHypothesis unlike]

theorem take?_eq (unlike : p.ids.Nodup) (id : OrganismId) :
    p.take? id = (p.find? id).map fun o => (o, p.without [id]) := by
  unfold take? without
  rw [eraseP_eq_filter unlike]

end Population

/-! ## Out of the habitat -/

/-- Some organisms are taken from a habitat: those that it holds under the ids, in the
order in which these are listed first.  Everything else stays. -/
structure IsTaking (h : Habitat) (ids : List OrganismId) (taken : List Organism)
    (left : Habitat) : Prop where
  organisms : taken = ids.eraseDups.filterMap h.find?
  residents : ∀ id, left.residents.find? id = if id ∈ ids then none else h.residents.find? id
  others : left = { h with residents := left.residents }

theorem takeAll_isTaking (h : Habitat) (ids : List OrganismId) :
    IsTaking h ids (Ecosystem.takeAll h ids).1 (Ecosystem.takeAll h ids).2 := by
  induction ids generalizing h with
  | nil => exact ⟨rfl, fun id => rfl, rfl⟩
  | cons id rest inductionHypothesis =>
      unfold Ecosystem.takeAll Habitat.take?
      cases found : h.find? id with
      | none =>
          -- listed before or never registered: the id is passed over
          obtain ⟨organisms, residents, others⟩ := inductionHypothesis h
          have unregistered : h.residents.find? id = none := Option.map_eq_none_iff.mp found
          refine ⟨?_, ?_, others⟩
          · rw [filterMap_eraseDups_cons found (fun x _ => rfl), found]
            exact organisms
          · intro other
            show (Ecosystem.takeAll h rest).2.residents.find? other = _
            rw [residents]
            by_cases same : other = id
            · subst same
              rw [if_pos List.mem_cons_self, unregistered, ite_self]
            · simp only [List.mem_cons, same, false_or]
      | some o =>
          obtain ⟨organisms, residents, others⟩ :=
            inductionHypothesis { h with residents := h.residents.erase id }
          have erased : ∀ other,
              Habitat.find? { h with residents := h.residents.erase id } other =
                if other = id then none else h.find? other := by
            intro other
            simp only [Habitat.find?, Directory.find?_erase]
            split <;> rfl
          refine ⟨?_, ?_, others⟩
          · rw [filterMap_eraseDups_cons (g := Habitat.find? _) ((erased id).trans (if_pos rfl))
              (fun x different => (erased x).trans (if_neg different)), found]
            exact congrArg (o :: ·) organisms
          · intro other
            show (Ecosystem.takeAll _ rest).2.residents.find? other = _
            rw [residents, Directory.find?_erase]
            by_cases same : other = id
            · simp only [same, List.mem_cons_self, if_true, ite_self]
            · simp only [List.mem_cons, same, false_or, if_false]

/-- Where organisms are registered under their own ids, those taken have the ids listed. -/
theorem map_id_takeAll {h : Habitat} {ids : List OrganismId}
    (registered : ∀ id ∈ ids, h.contains id = true)
    (own : ∀ id ∈ ids, ∀ o, h.find? id = some o → o.id = id) :
    (Ecosystem.takeAll h ids).1.map (·.id) = ids.eraseDups := by
  rw [(takeAll_isTaking h ids).organisms]
  refine map_id_filterMap ?_
  intro id member
  have listed := List.mem_eraseDups.mp member
  obtain ⟨o, found⟩ := Habitat.contains_iff_find?.mp (registered id listed)
  exact ⟨o, found, own id listed o found⟩

/-! ## Into the habitat -/

/-- Some organisms come to a habitat and are registered, awake.  Everything else is as
it was. -/
structure IsArrival (h : Habitat) (registered : List Organism) (after : Habitat) : Prop where
  residents : ∀ id, after.residents.find? id =
    match registered.find? fun o => o.id = id with
    | some o => some ⟨o, false⟩
    | none => h.residents.find? id
  others : after = { h with residents := after.residents }

theorem IsArrival.nil (h : Habitat) : IsArrival h [] h := ⟨fun _ => rfl, rfl⟩

theorem IsArrival.cons {h after : Habitat} {first : Organism} {rest : List Organism}
    (arrival : IsArrival
      { h with residents := h.residents.insert first.id ⟨first, false⟩ } rest after)
    (apart : first.id ∉ rest.map (·.id)) : IsArrival h (first :: rest) after := by
  refine ⟨?_, arrival.others⟩
  intro id
  rw [arrival.residents, List.find?_cons]
  by_cases same : first.id = id
  · have missing : (rest.find? fun o => o.id = id) = none := by
      rw [List.find?_eq_none]
      intro o member here
      refine apart (List.mem_map.mpr ⟨o, member, ?_⟩)
      exact (of_decide_eq_true here).trans same.symm
    rw [missing, decide_eq_true same]
    simp only [same, Directory.find?_insert_self]
  · rw [decide_eq_false same]
    simp only [Directory.find?_insert_of_ne _ _ (Ne.symm same)]

theorem releaseEach_advances (h : Habitat) (p : Population) (supply : IdSupply)
    (ids : List OrganismId) :
    supply.Advances (Ecosystem.releaseEach h p supply ids).2.2.2 := by
  induction ids generalizing h p supply with
  | nil => exact IdSupply.Advances.refl supply
  | cons id rest inductionHypothesis =>
      unfold Ecosystem.releaseEach
      cases p.take? id with
      | none => exact inductionHypothesis h p supply
      | some pair =>
          exact (h.enroll_advances supply pair.1).trans (inductionHypothesis _ _ _)

/-- The walk of a release.  What it takes from the population settles in the habitat. -/
theorem releaseEach_eq {h : Habitat} {p : Population} {supply : IdSupply} {limit : Nat}
    {ids : List OrganismId} (unlike : p.ids.Nodup) (normal : ∀ o ∈ p.organisms, o.IsNormal)
    (ready : CanSettle (fun id => h.contains id = true) supply limit
      (ids.eraseDups.filterMap p.find?))
    (room : (Ecosystem.releaseEach h p supply ids).2.2.2.issued ≤ limit) :
    ∃ registered after later,
      Ecosystem.releaseEach h p supply ids = (registered, after, p.without ids, later) ∧
        IsSettlement (fun id => h.contains id = true) supply later
          (ids.eraseDups.filterMap p.find?) registered ∧
        IsArrival h registered after := by
  induction ids generalizing h p supply with
  | nil =>
      have all : p.without [] = p := by
        obtain ⟨name, strategy, organisms, createdAt, cycles, metrics⟩ := p
        simp [Population.without]
      refine ⟨[], h, supply, ?_, IsSettlement.nil _ supply, IsArrival.nil h⟩
      rw [all]
      rfl
  | cons id rest inductionHypothesis =>
      have walked : p.without (id :: rest) = (p.without [id]).without rest :=
        (p.without_without [id] rest).symm
      have stillUnlike : (p.without [id]).ids.Nodup := unlike.sublist (List.filter_sublist.map _)
      have stillNormal : ∀ o ∈ (p.without [id]).organisms, o.IsNormal :=
        fun o member => normal o (List.mem_filter.mp member).1
      unfold Ecosystem.releaseEach at room ⊢
      rw [Population.take?_eq unlike] at room ⊢
      cases found : p.find? id with
      | none =>
          rw [filterMap_eraseDups_cons found (fun x _ => rfl), found] at ready ⊢
          rw [found] at room
          rw [walked, Population.without_of_find?_eq_none found]
          exact inductionHypothesis unlike normal ready room
      | some o =>
          obtain ⟨settled, middle, enters, enrolled⟩ := h.enroll_enters supply o
          -- a normal organism is registered as it is, but for its id
          rw [Organism.normalize_eq_self.mpr (normal o (Population.mem_of_find? found))] at enters
          -- the others are found in what is left of the population just as in the whole
          have remaining : (id :: rest).eraseDups.filterMap p.find? =
              o :: rest.eraseDups.filterMap (p.without [id]).find? := by
            rw [filterMap_eraseDups_cons (g := (p.without [id]).find?) ?_ ?_, found]
            · rfl
            · rw [Population.find?_without, if_pos (List.mem_singleton_self id)]
            · intro x different
              rw [Population.find?_without, if_neg (mt List.mem_singleton.mp different)]
          rw [remaining] at ready ⊢
          rw [found] at room
          simp only [Option.map_some, enrolled] at room ⊢
          have holds := h.contains_insert ⟨settled, false⟩ settled.id
          have bounded := Nat.le_trans (releaseEach_advances _ _ middle rest).issued room
          obtain ⟨registered, after, later, rest_eq, settlement, arrival⟩ :=
            inductionHypothesis stillUnlike stillNormal (ready.rest enters holds bounded) room
          rw [rest_eq] at room ⊢
          refine ⟨settled :: registered, after, later, by rw [walked],
            settlement.cons ready enters holds room, arrival.cons ?_⟩
          intro member
          obtain ⟨other, among, same⟩ := List.mem_map.mp member
          exact settlement.apart other among ((holds other.id).mpr (Or.inr same))

namespace Ecosystem

/-! ## Transfers that have passed their checks -/

/-- The population into which organisms are harvested: the one of that name, or a new
one. -/
def target (e : Ecosystem) (population : String) (strategy : Strategy) (now : Instant) :
    Population :=
  (e.nursery.populations.find? population).getD
    (Population.founded population strategy.name now)

/-- A harvest that has passed its checks. -/
def harvested (e : Ecosystem) (ids : List OrganismId) (population : String)
    (strategy : Strategy) (now : Instant) : List OrganismId × Ecosystem :=
  let taken := takeAll e.habitat ids
  let enrolled := Nursery.enrollAll (e.target population strategy now) e.supply taken.1
  let size := if (e.nursery.populations.find? population).isSome then 0 else strategy.populationSize
  let filled := e.nursery.fill enrolled.2.1 taken.1 size now enrolled.2.2
  (enrolled.1, ⟨taken.2, filled.2.1.put population filled.1, filled.2.2⟩)

theorem harvest_eq (e : Ecosystem) (ids : List OrganismId) (population strategyName : String)
    (now : Instant) :
    e.harvest ids population strategyName now =
      match e.nursery.strategies.find? strategyName with
      | none => .error (.nursery (.strategyNotFound strategyName))
      | some strategy =>
          match ids.find? fun id => !e.habitat.contains id with
          | some missing => .error (.habitat (.notFound missing))
          | none => .ok (e.harvested ids population strategy now) := by
  unfold harvest Nursery.strategy
  cases e.nursery.strategies.find? strategyName with
  | none => rfl
  | some strategy =>
      cases ids.find? fun id => !e.habitat.contains id with
      | none => rfl
      | some missing => rfl

theorem find?_not_eq_none_iff {ids : List OrganismId} {held : OrganismId → Bool} :
    (ids.find? fun id => !held id) = none ↔ ∀ id ∈ ids, held id = true := by
  simp only [List.find?_eq_none, Bool.not_eq_true', Bool.not_eq_false]

/-- A check of all ids passes when they are all held; whatever the first one that is not would be
told, the result is the one behind the check. -/
theorem checked_eq_ok {α : Type} {ids : List OrganismId} {held : OrganismId → Bool}
    {fault : OrganismId → EcosystemFault} {value result : α} :
    (match ids.find? fun id => !held id with
      | some missing => Except.error (fault missing)
      | none => .ok value) = .ok result ↔
      (∀ id ∈ ids, held id = true) ∧ result = value := by
  rw [← find?_not_eq_none_iff]
  cases ids.find? fun id => !held id with
  | none => simp [eq_comm]
  | some missing => simp

/-- A harvest succeeds when the strategy is known and all ids are registered. -/
theorem harvest_eq_ok {e : Ecosystem} {ids : List OrganismId} {population strategyName : String}
    {now : Instant} {result : List OrganismId × Ecosystem} :
    e.harvest ids population strategyName now = .ok result ↔
      ∃ strategy, e.nursery.strategies.find? strategyName = some strategy ∧
        (∀ id ∈ ids, e.habitat.contains id = true) ∧
        result = e.harvested ids population strategy now := by
  rw [harvest_eq]
  cases e.nursery.strategies.find? strategyName with
  | none => simp
  | some strategy =>
      refine checked_eq_ok.trans ?_
      simp

/-- A release from a population that has passed its checks. -/
def released (e : Ecosystem) (population : String) (source : Population)
    (ids : List OrganismId) : List Organism × Ecosystem :=
  let walked := releaseEach e.habitat source e.supply ids
  let left := walked.2.2.1.remeasure e.nursery.config.speciesBucketWidth
  (walked.1, ⟨walked.2.1, e.nursery.put population left, walked.2.2.2⟩)

theorem release_eq (e : Ecosystem) (population : String) (ids : List OrganismId) :
    e.release population ids =
      match e.nursery.populations.find? population with
      | none => .error (.nursery (.populationNotFound population))
      | some source =>
          match ids.find? fun id => !source.contains id with
          | some missing => .error (.nursery (.organismNotInPopulation missing population))
          | none => .ok (e.released population source ids) := by
  unfold release Nursery.population
  cases e.nursery.populations.find? population with
  | none => rfl
  | some source =>
      cases ids.find? fun id => !source.contains id with
      | none => rfl
      | some missing => rfl

/-- A release succeeds when the population exists and holds all ids. -/
theorem release_eq_ok {e : Ecosystem} {population : String} {ids : List OrganismId}
    {result : List Organism × Ecosystem} :
    e.release population ids = .ok result ↔
      ∃ source, e.nursery.populations.find? population = some source ∧
        (∀ id ∈ ids, source.contains id = true) ∧ result = e.released population source ids := by
  rw [release_eq]
  cases e.nursery.populations.find? population with
  | none => simp
  | some source =>
      refine checked_eq_ok.trans ?_
      simp

end Ecosystem

end Vivarium
