import Mathlib.Data.List.Nodup
import Vivarium.Proofs.Ecosystem.Transfer

/-!
# A census of an ecosystem

Everyone in an ecosystem lives in the habitat or in a population.  A census lists them all, and
since an organism may change its id on the way, it does so without regard to ids.  Listings are
compared up to their order: a transfer rearranges the census, a harvest may add clones to it,
and a removal of a population takes its organisms out of it.

Main definitions:

* `Organism.anonymous`: an organism without regard to its id;
* `Nursery.members`, `Ecosystem.everyone`: the listings.

Main statements:

* `Ecosystem.Sound.everyone_harvest`, `everyone_release`, `everyone_without`: what becomes of a
  census when organisms move, and when a population is removed.
-/

namespace Vivarium

/-- The organism without regard to its id. -/
def Organism.anonymous (o : Organism) : Organism := { o with id := ⟨0⟩ }

/-- The organisms of all populations. -/
def Nursery.members (n : Nursery) : List Organism := n.populations.values.flatMap (·.organisms)

/-- All organisms, wherever they live. -/
def Ecosystem.everyone (e : Ecosystem) : List Organism :=
  e.habitat.organisms ++ e.nursery.members

/-- Whoever settles is the same without regard to ids. -/
theorem IsSettlement.map_anonymous {held : OrganismId → Prop} {supply later : IdSupply}
    {organisms settled : List Organism}
    (settlement : IsSettlement held supply later organisms settled) :
    settled.map Organism.anonymous = organisms.map Organism.anonymous := by
  have each := settlement.each
  clear settlement
  induction each with
  | nil => rfl
  | cons first _ inductionHypothesis =>
      rw [List.map_cons, List.map_cons, inductionHypothesis]
      rcases first with ⟨-, rfl⟩ | ⟨-, -, same⟩
      · rfl
      · rw [same]
        rfl

/-! ## Populations -/

namespace Nursery

variable {n : Nursery} {name : String} {p : Population}

/-- The members are those of one population and those of the others. -/
theorem members_without (held : n.populations.find? name = some p) :
    n.members.Perm (p.organisms ++ (n.without name).members) :=
  ((Directory.perm_entries_erase String.lt_irrefl held).map Prod.snd).flatMap_right
    Population.organisms

theorem members_put (n : Nursery) (name : String) (p : Population) :
    (n.put name p).members.Perm (p.organisms ++ (n.without name).members) :=
  ((Directory.perm_entries_insert String.lt_irrefl n.populations name p).map
    Prod.snd).flatMap_right Population.organisms

end Nursery

/-- Some organisms of a population and the others. -/
theorem Population.perm_without {p : Population} {ids : List OrganismId} {taken : List Organism}
    (unlike : p.ids.Nodup) (listed : taken.map (·.id) = ids.eraseDups)
    (members : ∀ o ∈ taken, o ∈ p.organisms) :
    p.organisms.Perm (taken ++ (p.without ids).organisms) := by
  have listed_iff : ∀ id, id ∈ taken.map (·.id) ↔ id ∈ ids := by
    intro id
    rw [listed, List.mem_eraseDups]
  have distinct : taken.Nodup := by
    refine List.Nodup.of_map (·.id) ?_
    rw [listed]
    exact nodup_eraseDups ids
  have divided : (taken ++ (p.without ids).organisms).Nodup := by
    refine List.nodup_append.mpr ⟨distinct, unlike.of_map.filter _, ?_⟩
    rintro o gone other stays rfl
    have unlisted := of_decide_eq_true (List.mem_filter.mp stays).2
    exact unlisted ((listed_iff o.id).mp (List.mem_map_of_mem gone))
  refine (List.perm_ext_iff_of_nodup unlike.of_map divided).mpr ?_
  intro o
  rw [List.mem_append]
  constructor
  · intro member
    by_cases among : o.id ∈ ids
    · -- whoever was taken under this id is this organism, since ids differ
      obtain ⟨other, gone, same⟩ := List.mem_map.mp ((listed_iff o.id).mpr among)
      obtain rfl := List.inj_on_of_nodup_map unlike (members other gone) member same
      exact Or.inl gone
    · exact Or.inr (List.mem_filter.mpr ⟨member, decide_eq_true among⟩)
  · rintro (gone | stays)
    · exact members o gone
    · exact (List.mem_filter.mp stays).1

/-! ## The habitat -/

/-- Whoever was taken from a habitat, and whoever is left. -/
theorem Habitat.perm_takeAll (h : Habitat) (ids : List OrganismId) :
    h.organisms.Perm
      ((Ecosystem.takeAll h ids).1 ++ (Ecosystem.takeAll h ids).2.organisms) := by
  induction ids generalizing h with
  | nil => exact List.Perm.refl _
  | cons id rest inductionHypothesis =>
      unfold Ecosystem.takeAll Habitat.take? Habitat.find?
      cases found : h.residents.find? id with
      | none => exact inductionHypothesis h
      | some r =>
          have first : h.organisms.Perm (r.organism ::
              ({ h with residents := h.residents.erase id } : Habitat).organisms) :=
            ((Directory.perm_entries_erase Uuid.lt_irrefl found).map Prod.snd).map
              Resident.organism
          exact first.trans ((inductionHypothesis _).cons _)

/-- Whoever has come to a habitat, and whoever was there. -/
theorem IsArrival.perm_organisms {h after : Habitat} {registered : List Organism}
    (arrival : IsArrival h registered after) (distinct : (registered.map (·.id)).Nodup)
    (apart : ∀ o ∈ registered, ¬h.contains o.id = true) :
    after.organisms.Perm (registered ++ h.organisms) := by
  have arrived : ∀ o ∈ registered, (registered.find? fun x => x.id = o.id) = some o := by
    intro o member
    cases found : registered.find? fun x => x.id = o.id with
    | none => exact absurd (decide_eq_true rfl) (List.find?_eq_none.mp found o member)
    | some other =>
        have same : other.id = o.id := by simpa using List.find?_some found
        rw [List.inj_on_of_nodup_map distinct (List.mem_of_find?_eq_some found) member same]
  have entries : after.residents.entries.Perm
      (registered.map (fun o => (o.id, ⟨o, false⟩)) ++ h.residents.entries) := by
    refine Directory.perm_entries Uuid.lt_irrefl ?_ ?_
    · rw [List.map_append, List.map_map]
      refine List.nodup_append.mpr ⟨distinct, Directory.nodup_keys Uuid.lt_irrefl _, ?_⟩
      rintro id came other before rfl
      obtain ⟨o, member, rfl⟩ := List.mem_map.mp came
      exact apart o member (Directory.contains_of_mem_keys before)
    · intro id r
      rw [arrival.residents, List.mem_append]
      constructor
      · rintro (came | before)
        · obtain ⟨o, member, same⟩ := List.mem_map.mp came
          cases same
          rw [arrived o member]
        · have held := Directory.find?_eq_some_of_mem Uuid.lt_irrefl before
          have nobody : (registered.find? fun x => x.id = id) = none := by
            rw [List.find?_eq_none]
            intro o member here
            have same : o.id = id := by simpa using here
            exact apart o member (Directory.contains_iff.mpr ⟨r, same ▸ held⟩)
          rw [nobody]
          exact held
      · intro found
        split at found
        · rename_i o came
          cases found
          have same : o.id = id := by simpa using List.find?_some came
          exact Or.inl (List.mem_map.mpr ⟨o, List.mem_of_find?_eq_some came, by rw [same]⟩)
        · exact Or.inr (Directory.mem_of_lookup found)
  have came : ((registered.map fun o => (o.id, (⟨o, false⟩ : Resident))).map Prod.snd).map
      Resident.organism = registered := by
    rw [List.map_map, List.map_map]
    exact List.map_id registered
  have organisms := (entries.map Prod.snd).map Resident.organism
  rw [List.map_append, List.map_append, came] at organisms
  exact organisms

namespace Ecosystem

variable {e later : Ecosystem} {limit : Nat} {population strategyName : String}
  {ids : List OrganismId} {now : Instant}

/-- The organisms of the population into which a harvest goes, and those of the others. -/
theorem members_target (e : Ecosystem) (population : String) (strategy : Strategy)
    (now : Instant) :
    e.nursery.members.Perm ((e.target population strategy now).organisms ++
      (e.nursery.without population).members) := by
  unfold target
  cases held : e.nursery.populations.find? population with
  | none =>
      unfold Nursery.without
      rw [Directory.erase_of_find?_eq_none held]
      exact List.Perm.refl _
  | some p => exact Nursery.members_without held

/-- A harvest rearranges the census, and adds clones to it if it founds a population. -/
theorem Sound.everyone_harvest (sound : e.Sound limit) {moved : List OrganismId}
    (performed : e.harvest ids population strategyName now = .ok (moved, later))
    (room : later.supply.issued ≤ limit) :
    ∃ clones, (∀ clone ∈ clones, ∃ seed, Organism.IsCloneOf now seed clone) ∧
      ((e.everyone ++ clones).map Organism.anonymous).Perm
        (later.everyone.map Organism.anonymous) := by
  obtain ⟨strategy, taken, settled, clones, after, -, harvest, -⟩ := sound.isHarvest performed room
  obtain ⟨_, -, -, same⟩ := harvest_eq_ok.mp performed
  have left : later.habitat = (takeAll e.habitat ids).2 :=
    congrArg (fun result : List OrganismId × Ecosystem => result.2.habitat) same
  have gone : (takeAll e.habitat ids).1 = taken := by
    rw [(takeAll_isTaking e.habitat ids).organisms, ← harvest.listed, List.filterMap_map]
    exact (List.filterMap_congr harvest.registered).trans List.filterMap_some
  have habitat := e.habitat.perm_takeAll ids
  rw [gone, ← left] at habitat
  have populations : later.nursery.populations = e.nursery.populations.insert population after := by
    refine Directory.ext_of_find? String.lt_irrefl ?_
    intro name
    rw [harvest.populations, Directory.find?_insert]
  have members : later.nursery.members.Perm
      (after.organisms ++ (e.nursery.without population).members) := by
    unfold Nursery.members
    rw [populations]
    exact e.nursery.members_put population after
  obtain ⟨middle, -, settlement⟩ := harvest.settlement
  refine ⟨clones, fun clone member => ?_, ?_⟩
  · obtain ⟨seed, -, kinship⟩ := harvest.kinship clone member
    exact ⟨seed, kinship⟩
  · have before := (habitat.append (e.members_target population strategy now)).append_right clones
    have behind := (List.Perm.refl later.habitat.organisms).append members
    rw [harvest.organisms] at behind
    refine (before.map _).trans (List.Perm.trans ?_ (behind.map _).symm)
    simp only [List.map_append, settlement.map_anonymous]
    refine List.perm_iff_count.mpr fun o => ?_
    simp only [List.count_append]
    omega

/-- A release rearranges the census. -/
theorem Sound.everyone_release (sound : e.Sound limit) {registered : List Organism}
    (performed : e.release population ids = .ok (registered, later))
    (room : later.supply.issued ≤ limit) :
    (e.everyone.map Organism.anonymous).Perm (later.everyone.map Organism.anonymous) := by
  obtain ⟨source, taken, release⟩ := sound.isRelease performed room
  have populations : later.nursery.populations = e.nursery.populations.insert population
      ((source.without ids).remeasure e.nursery.config.speciesBucketWidth) := by
    refine Directory.ext_of_find? String.lt_irrefl ?_
    intro name
    rw [release.populations, Directory.find?_insert]
  have members : later.nursery.members.Perm
      ((source.without ids).organisms ++ (e.nursery.without population).members) := by
    unfold Nursery.members
    rw [populations]
    exact e.nursery.members_put population _
  have unlike := (sound.nursery population source release.held).ids
  have divided := Population.perm_without unlike release.listed release.members
  have habitat := release.arrival.perm_organisms release.settlement.ids release.settlement.apart
  have before := (List.Perm.refl e.habitat.organisms).append
    ((Nursery.members_without release.held).trans (divided.append_right _))
  have behind := habitat.append members
  refine (before.map _).trans (List.Perm.trans ?_ (behind.map _).symm)
  simp only [List.map_append, release.settlement.map_anonymous]
  refine List.perm_iff_count.mpr fun o => ?_
  simp only [List.count_append]
  omega

/-- A removal takes the organisms of the population out of the census. -/
theorem everyone_without {source : Population}
    (held : e.nursery.populations.find? population = some source) :
    e.everyone.Perm
      (({ e with nursery := e.nursery.without population } : Ecosystem).everyone ++
        source.organisms) := by
  have before := (List.Perm.refl e.habitat.organisms).append (Nursery.members_without held)
  refine before.trans (List.perm_iff_count.mpr fun o => ?_)
  simp only [everyone, List.count_append]
  omega

end Ecosystem

end Vivarium
