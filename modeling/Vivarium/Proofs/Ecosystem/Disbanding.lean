import Vivarium.Proofs.Ecosystem.Census

/-!
# A population disbanded while others act

A release of all organisms of a population goes in three sections: it lists the population, it
releases whom it has listed, and it removes the population.  Between two sections others may
harvest organisms into the same population.  The list is out of date then, and whoever has come
late is still in the population when it is removed.

So a census is only kept if those who are dropped with the population are counted in.  They are
the latecomers, and nobody else: whoever was there in time is released.

Main definitions:

* `Disbanding`, `Ecosystem.proceed`: how far a release has come, and its next section;
* `Ecosystem.Interleaving`: sections of the release and harvests by others, in any order.

Main statements:

* `Ecosystem.proceed_alone`: the sections in a row are a release of all;
* `Ecosystem.Stands.proceed`, `Stands.harvest`: one step;
* `Ecosystem.census_of_interleaving`: a run.
-/

namespace Vivarium

/-- How far a release of all organisms of a population has come. -/
inductive Disbanding where
  | begun
  | listed (ids : List OrganismId)
  | released (organisms : List Organism)
  | done (organisms dropped : List Organism)
  | failed (fault : EcosystemFault)

namespace Disbanding

/-- Whoever was in the population when it was removed. -/
def dropped : Disbanding → List Organism
  | done _ dropped => dropped
  | _ => []

/-- The population has been listed and not been removed yet. -/
def isUnderway : Disbanding → Bool
  | listed _ => true
  | released _ => true
  | _ => false

end Disbanding

namespace Ecosystem

/-- The next section of a release.  One that fails ends it. -/
def proceed (e : Ecosystem) (population : String) : Disbanding → Disbanding × Ecosystem
  | .begun =>
      match ofNursery (e.nursery.population population) with
      | .ok source => (.listed source.ids, e)
      | .error fault => (.failed fault, e)
  | .listed ids =>
      match e.release population ids with
      | .ok (organisms, later) => (.released organisms, later)
      | .error fault => (.failed fault, e)
  | .released organisms =>
      match ofNursery (e.nursery.removePopulation population) with
      | .ok (removed, nursery) => (.done organisms removed.organisms, { e with nursery := nursery })
      | .error fault => (.failed fault, e)
  | ended => (ended, e)

/-- A release of all and harvests into its population, from a first ecosystem on.  The list tells
under which ids organisms came to the population while the release was underway. -/
inductive Interleaving (population : String) (first : Ecosystem) :
    Disbanding → List OrganismId → Ecosystem → Prop where
  | start : Interleaving population first .begun [] first
  | proceed {d : Disbanding} {late : List OrganismId} {e : Ecosystem}
      (before : Interleaving population first d late e) :
      Interleaving population first (e.proceed population d).1 late (e.proceed population d).2
  | harvest {d : Disbanding} {late ids moved : List OrganismId} {e later : Ecosystem}
      {strategyName : String} {now : Instant} (before : Interleaving population first d late e)
      (performed : e.harvest ids population strategyName now = .ok (moved, later)) :
      Interleaving population first d (if d.isUnderway then late ++ moved else late) later

variable {first e later : Ecosystem} {limit : Nat} {population strategyName : String}
  {source : Population} {d : Disbanding} {late ids moved : List OrganismId} {now : Instant}

/-! ## Sections -/

theorem proceed_begun (known : e.nursery.populations.find? population = some source) :
    e.proceed population .begun = (.listed source.ids, e) := by
  simp only [proceed, Nursery.population, known, ofNursery]
  rfl

theorem proceed_begun_of_missing (missing : e.nursery.populations.find? population = none) :
    e.proceed population .begun = (.failed (.nursery (.populationNotFound population)), e) := by
  simp only [proceed, Nursery.population, missing, ofNursery]
  rfl

theorem proceed_listed (known : e.nursery.populations.find? population = some source)
    (held : ∀ id ∈ ids, source.contains id = true) :
    e.proceed population (.listed ids) =
      (.released (e.released population source ids).1, (e.released population source ids).2) := by
  have released := release_eq_ok.mpr ⟨source, known, held, rfl⟩
  simp only [proceed, released]

theorem proceed_released (known : e.nursery.populations.find? population = some source)
    (organisms : List Organism) :
    e.proceed population (.released organisms) =
      (.done organisms source.organisms,
        { e with nursery := e.nursery.without population }) := by
  simp only [proceed, Nursery.removePopulation, Nursery.population, known, ofNursery]
  rfl

/-- The sections in a row are a release of all. -/
theorem proceed_alone (e : Ecosystem) (population : String) :
    let listed := e.proceed population .begun
    let released := listed.2.proceed population listed.1
    let removed := released.2.proceed population released.1
    match e.releaseAll population with
    | .ok (organisms, later) => ∃ dropped, removed = (.done organisms dropped, later)
    | .error fault => removed = (.failed fault, e) := by
  intro listed released removed
  cases known : e.nursery.populations.find? population with
  | none =>
      have refused : e.releaseAll population =
          .error (.nursery (.populationNotFound population)) := by
        simp only [releaseAll, Nursery.population, known]
        rfl
      have ended : listed = _ := proceed_begun_of_missing known
      rw [refused]
      simp only [removed, released, ended, proceed]
  | some source =>
      have all : ∀ id ∈ source.ids, source.contains id = true :=
        fun id member => List.contains_iff_mem.mpr member
      have granted : e.perform ⟨0, 0⟩ (.releaseAll population) =
          .ok (e.disbanded population source) := perform_of_effect (.releaseAll known)
      have granted : e.releaseAll population = .ok (e.disbanded population source) := granted
      obtain ⟨left, still⟩ : ∃ left,
          (e.released population source source.ids).2.nursery.populations.find? population =
            some left := ⟨_, Directory.find?_insert_self _ _ _⟩
      have first : listed = (.listed source.ids, e) := proceed_begun known
      have second : released = (.released (e.released population source source.ids).1,
          (e.released population source source.ids).2) := by
        simp only [released, first]
        exact proceed_listed known all
      rw [granted]
      refine ⟨left.organisms, ?_⟩
      simp only [removed, second]
      exact proceed_released still _

/-! ## Steps -/

/-- What the progress of a release says about the population: those that are still to be
released stand in front of the latecomers. -/
def Stands (e : Ecosystem) (population : String) (late : List OrganismId) : Disbanding → Prop
  | .begun => late = []
  | .listed ids =>
      ∃ p, e.nursery.populations.find? population = some p ∧ p.ids = ids ++ late
  | .released _ => ∃ p, e.nursery.populations.find? population = some p ∧ p.ids = late
  | .done _ dropped => dropped.map (·.id) = late
  | .failed fault => fault = .nursery (.populationNotFound population) ∧ late = []

/-- Two censuses list the same, those counted in who were dropped. -/
def SameCensus (e : Ecosystem) (d : Disbanding) (later : Ecosystem) (after : Disbanding) : Prop :=
  ((e.everyone ++ d.dropped).map Organism.anonymous).Perm
    ((later.everyone ++ after.dropped).map Organism.anonymous)

/-- A section only takes ids from the front of the supply. -/
theorem advances_proceed (e : Ecosystem) (population : String) (d : Disbanding) :
    e.supply.Advances (e.proceed population d).2.supply := by
  cases d with
  | begun =>
      unfold proceed
      cases ofNursery (e.nursery.population population) <;> exact IdSupply.Advances.refl _
  | listed ids =>
      simp only [proceed]
      split
      · next organisms later performed =>
          obtain ⟨source, -, -, same⟩ := release_eq_ok.mp performed
          cases same
          exact advances_released e population source ids
      · exact IdSupply.Advances.refl _
  | released organisms =>
      unfold proceed
      cases ofNursery (e.nursery.removePopulation population) <;> exact IdSupply.Advances.refl _
  | done organisms dropped => exact IdSupply.Advances.refl _
  | failed fault => exact IdSupply.Advances.refl _

/-- Without those who were listed the latecomers are left. -/
theorem ids_without {p : Population} (unlike : p.ids.Nodup) (divided : p.ids = ids ++ late) :
    (p.without ids).ids = late := by
  have filtered : (p.without ids).ids = p.ids.filter fun id => id ∉ ids := by
    rw [Population.ids, Population.without, Population.ids, List.filter_map]
    rfl
  rw [divided] at unlike
  rw [filtered, divided, List.filter_append]
  have gone : ids.filter (fun id => id ∉ ids) = [] :=
    List.filter_eq_nil_iff.mpr fun id member => by simpa using member
  have left : late.filter (fun id => id ∉ ids) = late := by
    refine List.filter_eq_self.mpr fun id member => decide_eq_true ?_
    intro listed
    exact (List.nodup_append.mp unlike).2.2 id listed id member rfl
  rw [gone, left, List.nil_append]

/-- A section of the release.  It does not fail once the population was found. -/
theorem Stands.proceed (stands : e.Stands population late d) (sound : e.Sound limit)
    (room : (e.proceed population d).2.supply.issued ≤ limit) :
    let after := e.proceed population d
    after.2.Sound limit ∧ after.2.Stands population late after.1 ∧
      e.SameCensus d after.2 after.1 := by
  intro after
  cases d with
  | begun =>
      cases known : e.nursery.populations.find? population with
      | none =>
          have ended : after = _ := proceed_begun_of_missing known
          rw [ended]
          exact ⟨sound, ⟨rfl, stands⟩, List.Perm.refl _⟩
      | some source =>
          have listed : after = _ := proceed_begun known
          rw [listed]
          have nobody : late = [] := stands
          exact ⟨sound, ⟨source, known, by rw [nobody, List.append_nil]⟩, List.Perm.refl _⟩
  | listed ids =>
      obtain ⟨source, known, divided⟩ := stands
      have unlike := (sound.nursery population source known).ids
      have held : ∀ id ∈ ids, source.contains id = true := by
        intro id member
        refine List.contains_iff_mem.mpr ?_
        rw [divided]
        exact List.mem_append_left _ member
      have released : after = _ := proceed_listed known held
      have room : after.2.supply.issued ≤ limit := room
      rw [released] at room ⊢
      have performed : e.perform ⟨0, 0⟩ (.release population ids) =
          .ok (e.released population source ids) := perform_of_effect (.release known held)
      generalize e.released population source ids = result at performed room ⊢
      obtain ⟨organisms, between⟩ := result
      have settled : between.Sound limit :=
        sound.perform (by exact not_false) (List.forall_mem_nil _) performed room
      have performed : e.release population ids = .ok (organisms, between) := performed
      obtain ⟨again, taken, release⟩ := sound.isRelease performed room
      obtain rfl : source = again := Option.some.inj (known.symm.trans release.held)
      refine ⟨settled,
        ⟨(source.without ids).remeasure e.nursery.config.speciesBucketWidth, ?_, ?_⟩, ?_⟩
      · rw [release.populations, if_pos rfl]
      · exact ids_without unlike divided
      · simp only [SameCensus, Disbanding.dropped, List.append_nil]
        exact sound.everyone_release performed room
  | released organisms =>
      obtain ⟨source, known, left⟩ := stands
      have removed : after = _ := proceed_released known organisms
      rw [removed]
      have smaller : e.perform ⟨0, 0⟩ (.removePopulation population) =
          .ok (source, { e with nursery := e.nursery.without population }) :=
        perform_of_effect (.removePopulation known)
      have room : e.supply.issued ≤ limit := by
        have room : after.2.supply.issued ≤ limit := room
        rwa [removed] at room
      refine ⟨?_, left, ?_⟩
      · exact sound.perform (by exact not_false) (List.forall_mem_nil _) smaller room
      · simp only [SameCensus, Disbanding.dropped, List.append_nil]
        exact (everyone_without known).map Organism.anonymous
  | done organisms dropped => exact ⟨sound, stands, List.Perm.refl _⟩
  | failed fault => exact ⟨sound, stands, List.Perm.refl _⟩

/-- A harvest into a population that exists adds its organisms at the end, and no clones. -/
theorem Sound.ids_harvest (sound : e.Sound limit)
    (performed : e.harvest ids population strategyName now = .ok (moved, later))
    (room : later.supply.issued ≤ limit)
    (known : e.nursery.populations.find? population = some source) :
    ∃ p, later.nursery.populations.find? population = some p ∧ p.ids = source.ids ++ moved := by
  obtain ⟨strategy, taken, settled, clones, after, -, harvest, rfl⟩ :=
    sound.isHarvest performed room
  refine ⟨after, by rw [harvest.populations, if_pos rfl], ?_⟩
  have target : e.target population strategy now = source := by
    unfold target
    rw [known]
    rfl
  have none : clones = [] := by
    refine List.eq_nil_of_length_eq_zero ?_
    rw [harvest.filled, known]
    exact if_pos (Or.inl rfl)
  rw [Population.ids, harvest.organisms, target, none, List.append_nil, List.map_append]
  rfl

/-- A harvest by another.  While the release is underway, it brings latecomers. -/
theorem Stands.harvest (stands : e.Stands population late d) (sound : e.Sound limit)
    (performed : e.harvest ids population strategyName now = .ok (moved, later))
    (room : later.supply.issued ≤ limit) :
    later.Stands population (if d.isUnderway then late ++ moved else late) d := by
  cases d with
  | begun => exact stands
  | listed listed =>
      obtain ⟨source, known, divided⟩ := stands
      obtain ⟨p, held, joined⟩ := sound.ids_harvest performed room known
      exact ⟨p, held, by rw [joined, divided, List.append_assoc]; rfl⟩
  | released organisms =>
      obtain ⟨source, known, left⟩ := stands
      obtain ⟨p, held, joined⟩ := sound.ids_harvest performed room known
      exact ⟨p, held, by rw [joined, left]; rfl⟩
  | done organisms dropped => exact stands
  | failed fault => exact stands

/-! ## Runs -/

/-- What a run has come to, by its steps. -/
theorem Interleaving.stands (interleaving : Interleaving population first d late e)
    (sound : first.Sound limit) (room : e.supply.issued ≤ limit) :
    e.Sound limit ∧ e.Stands population late d ∧
      ∃ clones, (∀ clone ∈ clones, ∃ seed now, Organism.IsCloneOf now seed clone) ∧
        ((first.everyone ++ clones).map Organism.anonymous).Perm
          ((e.everyone ++ d.dropped).map Organism.anonymous) := by
  induction interleaving with
  | start => exact ⟨sound, rfl, [], List.forall_mem_nil _, List.Perm.refl _⟩
  | @proceed d late e before inductionHypothesis =>
      obtain ⟨sound, stands, clones, kinship, census⟩ := inductionHypothesis
        (Nat.le_trans (e.advances_proceed population d).issued room)
      obtain ⟨sound, stands, same⟩ := stands.proceed sound room
      exact ⟨sound, stands, clones, kinship, census.trans same⟩
  | @harvest d late ids moved e later strategyName now before performed inductionHypothesis =>
      have asked : e.perform now (.harvest ids population strategyName) = .ok (moved, later) :=
        performed
      obtain ⟨sound, stands, clones, kinship, census⟩ := inductionHypothesis
        (Nat.le_trans (effect_of_perform asked).advances.issued room)
      obtain ⟨more, moreKinship, same⟩ := sound.everyone_harvest performed room
      refine ⟨sound.perform (by exact not_false) (List.forall_mem_nil _) asked room,
        stands.harvest sound performed room, clones ++ more, ?_, ?_⟩
      · intro clone member
        rcases List.mem_append.mp member with old | new
        · exact kinship clone old
        · obtain ⟨seed, kin⟩ := moreKinship clone new
          exact ⟨seed, now, kin⟩
      · rw [List.map_append] at census same ⊢
        rw [List.map_append] at census
        refine List.perm_iff_count.mpr fun o => ?_
        have counted := List.perm_iff_count.mp census o
        have countedMore := List.perm_iff_count.mp same o
        simp only [List.map_append, List.count_append] at counted countedMore ⊢
        omega

/-- **A release of all among others** that harvest into the same population: whoever was there
in the beginning is there in the end or was dropped with the population, and who was dropped are
the latecomers.  So nobody is lost if none came late.  The release only fails for want of the
population. -/
theorem census_of_interleaving (reachable : Reachable limit first)
    (interleaving : Interleaving population first d late e) (room : e.supply.issued ≤ limit) :
    (∃ clones, (∀ clone ∈ clones, ∃ seed now, Organism.IsCloneOf now seed clone) ∧
      ((first.everyone ++ clones).map Organism.anonymous).Perm
        ((e.everyone ++ d.dropped).map Organism.anonymous)) ∧
    (∀ organisms dropped, d = .done organisms dropped → dropped.map (·.id) = late) ∧
    (∀ fault, d = .failed fault → fault = .nursery (.populationNotFound population)) ∧
    (late = [] → ∀ o ∈ first.everyone, ∃ kept ∈ e.everyone, kept.anonymous = o.anonymous) := by
  obtain ⟨-, stands, clones, kinship, census⟩ := interleaving.stands reachable.sound room
  refine ⟨⟨clones, kinship, census⟩, ?_, ?_, ?_⟩
  · rintro organisms dropped rfl
    exact stands
  · rintro fault rfl
    exact stands.1
  · rintro rfl o member
    have nobody : d.dropped = [] := by
      cases d with
      | done organisms dropped => exact List.map_eq_nil_iff.mp stands
      | _ => rfl
    rw [nobody, List.append_nil] at census
    have counted : o.anonymous ∈ (first.everyone ++ clones).map Organism.anonymous :=
      List.mem_map_of_mem (List.mem_append_left _ member)
    exact List.mem_map.mp (census.mem_iff.mp counted)

/-! All newts of the pond are released, once with nobody around, and once while somebody
harvests the newt into the pond again before it is removed. -/

/-- The ecosystem with the newt released. -/
def drained : Ecosystem := (pond.released "pond" stock [newt.id]).2

/-- The ecosystem with the newt in the pond again. -/
def refilled : Ecosystem := (drained.harvested [newt.id] "pond" Strategy.balanced ⟨0, 0⟩).2

/-- The removal of the pond, the newt being in the habitat or in the pond again. -/
def builtUpon (e : Ecosystem) : Disbanding × Ecosystem :=
  e.proceed "pond" (.released (pond.released "pond" stock [newt.id]).1)

theorem interleaving_drained :
    Interleaving "pond" pond (.released (pond.released "pond" stock [newt.id]).1) [] drained := by
  have listed : pond.proceed "pond" .begun = (.listed [newt.id], pond) :=
    proceed_begun find?_stock
  have released : pond.proceed "pond" (.listed [newt.id]) =
      (.released (pond.released "pond" stock [newt.id]).1, drained) := by
    simp only [proceed, release_newt]
    rfl
  have one : Interleaving "pond" pond (pond.proceed "pond" .begun).1 []
      (pond.proceed "pond" .begun).2 := .proceed .start
  rw [listed] at one
  have two := one.proceed
  rwa [released] at two

theorem interleaving_refilled :
    Interleaving "pond" pond (builtUpon refilled).1 [newt.id] (builtUpon refilled).2 := by
  have harvested : drained.harvest [newt.id] "pond" "balanced" ⟨0, 0⟩ =
      .ok ([newt.id], refilled) := rfl
  exact (interleaving_drained.harvest harvested).proceed

theorem census_of_interleaving_newt :
    (∃ clones, (∀ clone ∈ clones, ∃ seed now, Organism.IsCloneOf now seed clone) ∧
      ((pond.everyone ++ clones).map Organism.anonymous).Perm
        (((builtUpon refilled).2.everyone ++ (builtUpon refilled).1.dropped).map
          Organism.anonymous)) ∧
    (builtUpon refilled).1.dropped.map (·.id) = [newt.id] ∧
    ∀ o ∈ pond.everyone, ∃ kept ∈ (builtUpon drained).2.everyone,
      kept.anonymous = o.anonymous := by
  have late := census_of_interleaving reachable_pond interleaving_refilled (by decide +kernel)
  have alone := census_of_interleaving reachable_pond interleaving_drained.proceed
    (by decide +kernel)
  exact ⟨late.1, late.2.1 _ _ rfl, alone.2.2.2 rfl⟩

/-- The newt that came late is neither in the habitat nor in a population in the end. -/
theorem not_everyone_kept :
    ¬∀ population first d late e, Reachable 100 first →
      Interleaving population first d late e → e.supply.issued ≤ 100 →
      ∀ o ∈ first.everyone, ∃ kept ∈ e.everyone, kept.anonymous = o.anonymous := by
  intro everyoneKept
  have nobody : (builtUpon refilled).2.everyone = [] := rfl
  have one : pond.everyone.length = 1 := by decide +kernel
  obtain ⟨o, alone⟩ := List.length_eq_one_iff.mp one
  have member : o ∈ pond.everyone := by
    rw [alone]
    exact List.mem_cons_self
  obtain ⟨kept, found, -⟩ := everyoneKept "pond" pond _ _ _ reachable_pond interleaving_refilled
    (by decide +kernel) o member
  rw [nobody] at found
  exact List.not_mem_nil found

end Ecosystem

end Vivarium
