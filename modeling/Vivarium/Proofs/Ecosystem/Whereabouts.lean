import Vivarium.Proofs.Breeding.Provenance
import Vivarium.Proofs.Ecosystem.Course
import Vivarium.Proofs.Ecosystem.Transfer
import Vivarium.Proofs.Habitat.Growth

/-!
# Where organisms live

An organism lives in the habitat or in one of the populations.  Each of these homes sees to it
that no two of its organisms have one id, but none of them asks the others.  So an id could be
found at two homes at once.

Fresh ids are found nowhere, and an organism that moves leaves the home where it lived.  What is
left is the organism that is registered from outside.  If no population has its id at that
time, then every id is found at one home, in whatever order organisms come and move.  If a
population has it, the id is found at two homes from then on.

Main definitions:

* `Home`, `Ecosystem.Lodges`: who lives where;
* `Ecosystem.Separate`: each id is found at one home;
* `Ecosystem.Moves`: organisms have come to one home;
* `Ecosystem.Peopled`: a run in which organisms are admitted by a rule.

Main statements:

* `Ecosystem.Moves.separate`, `Separate.effect`: one request;
* `Ecosystem.separate_of_peopled`: a run.
-/

namespace Vivarium

/-- Where an organism can live. -/
inductive Home where
  | habitat
  | population (name : String)
  deriving DecidableEq

/-- The request founds a population of organisms from outside. -/
def Request.Founds {α : Type} : Request α → Prop
  | createPopulation _ _ _ => True
  | _ => False

namespace Ecosystem

/-- An organism with the id lives at the home. -/
def Lodges (e : Ecosystem) : Home → OrganismId → Prop
  | .habitat, id => e.habitat.contains id = true
  | .population name, id => ∃ p, e.nursery.populations.find? name = some p ∧ id ∈ p.ids

/-- No id is found at two homes. -/
def Separate (e : Ecosystem) : Prop :=
  ∀ id home other, e.Lodges home id → e.Lodges other id → home = other

/-- Organisms have come to one home.  Whoever lives there has lived there before, has a fresh
id, or lives nowhere else.  At all others nobody lives who did not live there before. -/
structure Moves (limit : Nat) (e later : Ecosystem) (home : Home) : Prop where
  others : ∀ other, other ≠ home → ∀ id, later.Lodges other id → e.Lodges other id
  arrivals : ∀ id, later.Lodges home id → e.Lodges home id ∨ e.supply.Pending limit id ∨
    ∀ other, other ≠ home → ¬later.Lodges other id

variable {e later : Ecosystem} {limit : Nat} {home : Home} {id : OrganismId} {now : Instant}

/-- A fresh id is found nowhere. -/
theorem Settled.not_lodges (settled : e.Settled limit) (pending : e.supply.Pending limit id)
    (home : Home) : ¬e.Lodges home id := by
  cases home with
  | habitat => exact fun held => settled.habitat.not_pending held pending
  | population name =>
      rintro ⟨p, held, member⟩
      exact (settled.nursery name p held).not_pending member pending

/-- Organisms that leave do not make an id be found at two homes. -/
theorem Separate.of_fewer (separate : e.Separate)
    (fewer : ∀ home id, later.Lodges home id → e.Lodges home id) : later.Separate :=
  fun id home other here there => separate id home other (fewer home id here) (fewer other id there)

theorem Moves.separate (moves : Moves limit e later home) (settled : e.Settled limit)
    (separate : e.Separate) : later.Separate := by
  -- it is enough to look at an id found at the home to which organisms came
  have apart : ∀ id other, other ≠ home → later.Lodges home id → ¬later.Lodges other id := by
    intro id other elsewhere here there
    have before := moves.others other elsewhere id there
    rcases moves.arrivals id here with stayed | fresh | alone
    · exact elsewhere (separate id other home before stayed)
    · exact settled.not_lodges fresh other before
    · exact alone other elsewhere there
  intro id first second here there
  by_cases firstHome : first = home
  · by_contra differ
    subst firstHome
    exact apart id second (Ne.symm differ) here there
  · by_cases secondHome : second = home
    · subst secondHome
      exact absurd here (apart id first firstHome there)
    · exact separate id first second (moves.others first firstHome id here)
        (moves.others second secondHome id there)

/-- Nobody was registered, and the populations were left alone. -/
theorem Separate.of_growsBy (separate : e.Separate)
    (grown : Habitat.GrowsBy 0 e.habitat later.habitat)
    (populations : later.nursery.populations = e.nursery.populations) : later.Separate := by
  refine separate.of_fewer ?_
  intro home id lodged
  cases home with
  | habitat => exact grown.known rfl id lodged
  | population name =>
      obtain ⟨p, held, member⟩ := lodged
      rw [populations] at held
      exact ⟨p, held, member⟩

/-- Whoever is left in a population that is removed lives nowhere. -/
theorem Separate.erase (separate : e.Separate) (name : String) :
    ({ e with nursery := e.nursery.without name } : Ecosystem).Separate := by
  refine separate.of_fewer ?_
  intro home id lodged
  cases home with
  | habitat => exact lodged
  | population other =>
      obtain ⟨p, held, member⟩ := lodged
      rw [Nursery.without, Directory.find?_erase] at held
      split at held
      · cases held
      · exact ⟨p, held, member⟩

/-- A population that is put under its name lodges its organisms, and all other homes are left
as they are. -/
theorem lodges_put {n : Nursery} {name : String} {p : Population} {h : Habitat}
    {supply : IdSupply} (populations : n.populations = e.nursery.populations.insert name p)
    (stays : ∀ id, h.contains id = true → e.habitat.contains id = true) (other : Home)
    (elsewhere : other ≠ .population name) (id : OrganismId)
    (lodged : (⟨h, n, supply⟩ : Ecosystem).Lodges other id) : e.Lodges other id := by
  cases other with
  | habitat => exact stays id lodged
  | population another =>
      obtain ⟨q, held, member⟩ := lodged
      rw [populations, Directory.find?_insert_of_ne] at held
      · exact ⟨q, held, member⟩
      · rintro rfl
        exact elsewhere rfl

/-! ## Requests -/

/-- An organism is registered under an id that no population has, or under a fresh one. -/
theorem moves_registered {o : Organism} (apart : ∀ name, ¬e.Lodges (.population name) o.id)
    (room : (e.registered o).2.supply.issued ≤ limit) :
    Moves limit e (e.registered o).2 .habitat := by
  obtain ⟨registered, middle, enters, enrolled⟩ := e.habitat.enroll_enters e.supply o
  unfold Ecosystem.registered at room ⊢
  rw [enrolled] at room ⊢
  constructor
  · intro other elsewhere id lodged
    cases other with
    | habitat => exact absurd rfl elsewhere
    | population name => exact lodged
  · intro id lodged
    rcases (e.habitat.contains_insert _ _ id).mp lodged with before | rfl
    · exact Or.inl before
    · rcases enters.id_cases with ⟨same, -⟩ | fresh
      · refine Or.inr (Or.inr ?_)
        intro other elsewhere lodged
        cases other with
        | habitat => exact elsewhere rfl
        | population name =>
            rw [same] at lodged
            exact apart name lodged
      · exact Or.inr (Or.inl (fresh.mono room))

/-- Children of a population have fresh ids. -/
theorem moves_performSelection {name strategyName : String} {report : SelectionReport}
    {n : Nursery} {supply : IdSupply}
    (performed : e.nursery.performSelection e.supply name strategyName now =
      .ok (report, n, supply)) (room : supply.issued ≤ limit) :
    Moves limit e ⟨e.habitat, n, supply⟩ (.population name) := by
  obtain ⟨strategy, landscape, p, -, -, held, -, rfl, rfl⟩ :=
    Nursery.of_performSelection performed
  refine ⟨lodges_put rfl fun _ held => held, ?_⟩
  rintro id ⟨after, found, member⟩
  obtain rfl := Option.some.inj ((Directory.find?_insert_self _ _ _).symm.trans found)
  rcases mem_ids_select member with before | fresh
  · exact Or.inl ⟨p, held, before⟩
  · exact Or.inr (Or.inl (fresh.mono room))

/-- An id of a population after a harvest was there before, came with an organism that was
taken, or is fresh. -/
theorem mem_ids_harvested {ids : List OrganismId} {population : String} {strategy : Strategy}
    {p : Population}
    (held : (e.harvested ids population strategy now).2.nursery.populations.find? population =
      some p) (member : id ∈ p.ids) :
    e.Lodges (.population population) id ∨ (∃ o ∈ (takeAll e.habitat ids).1, o.id = id) ∨
      e.supply.Pending (e.harvested ids population strategy now).2.supply.issued id := by
  let target := e.target population strategy now
  have enrolls := enrollAll_advances target e.supply (takeAll e.habitat ids).1
  have fills : (Nursery.enrollAll target e.supply (takeAll e.habitat ids).1).2.2.Advances
      (e.harvested ids population strategy now).2.supply := fill_advances e.nursery _ _ _ now _
  obtain rfl := Option.some.inj ((Directory.find?_insert_self _ _ _).symm.trans held)
  rcases mem_ids_fill member with enrolled | fresh
  · rcases mem_ids_enrollAll enrolled with before | taken | fresh
    · -- a population that is only founded has nobody yet
      refine Or.inl ?_
      unfold Ecosystem.target at before
      cases held : e.nursery.populations.find? population with
      | none =>
          rw [held] at before
          cases before
      | some p =>
          rw [held] at before
          exact ⟨p, held, before⟩
    · exact Or.inr (Or.inl taken)
    · exact Or.inr (Or.inr (fresh.mono fills.issued))
  · exact Or.inr (Or.inr (fresh.of_advances enrolls))

/-- Whoever is harvested leaves the habitat, and clones have fresh ids. -/
theorem Settled.moves_harvested (settled : e.Settled limit) (separate : e.Separate)
    {ids : List OrganismId} {population : String} {strategy : Strategy}
    (room : (e.harvested ids population strategy now).2.supply.issued ≤ limit) :
    Moves limit e (e.harvested ids population strategy now).2 (.population population) := by
  have taking := takeAll_isTaking e.habitat ids
  have stays : ∀ id, (takeAll e.habitat ids).2.contains id = true →
      e.habitat.contains id = true ∧ id ∉ ids := by
    intro id held
    obtain ⟨r, found⟩ := Directory.contains_iff.mp held
    rw [taking.residents] at found
    split at found
    · cases found
    · rename_i unlisted
      exact ⟨Directory.contains_iff.mpr ⟨r, found⟩, unlisted⟩
  have others : ∀ other, other ≠ Home.population population → ∀ id,
      (e.harvested ids population strategy now).2.Lodges other id → e.Lodges other id :=
    lodges_put rfl fun id held => (stays id held).1
  refine ⟨others, ?_⟩
  rintro id ⟨p, held, member⟩
  rcases mem_ids_harvested held member with before | ⟨o, taken, rfl⟩ | fresh
  · exact Or.inl before
  · refine Or.inr (Or.inr ?_)
    intro other elsewhere lodged
    have registered : e.Lodges .habitat o.id :=
      Habitat.contains_iff_find?.mpr ⟨o, settled.find?_taken taken⟩
    obtain rfl := separate o.id other .habitat (others other elsewhere o.id lodged) registered
    exact (stays o.id lodged).2 (settled.listed_of_taken taken)
  · exact Or.inr (Or.inl (fresh.mono room))

/-- Whoever is released leaves the population. -/
theorem Settled.moves_released (settled : e.Settled limit) (separate : e.Separate)
    {ids : List OrganismId} {population : String} {source : Population}
    (known : e.nursery.populations.find? population = some source)
    (held : ∀ id ∈ ids, source.contains id = true)
    (room : (e.released population source ids).2.supply.issued ≤ limit) :
    Moves limit e (e.released population source ids).2 .habitat := by
  have together := settled.nursery population source known
  obtain ⟨registered, after, last, walked, settlement, arrival⟩ :=
    releaseEach_eq together.ids together.normal (settled.canRelease known held) room
  unfold Ecosystem.released at room ⊢
  rw [walked] at room ⊢
  have stays : ∀ name p, (e.nursery.populations.insert population
      ((source.without ids).remeasure e.nursery.config.speciesBucketWidth)).find? name = some p →
      ∀ id ∈ p.ids, e.Lodges (.population name) id ∧ (name = population → id ∉ ids) := by
    intro name p found id member
    rw [Directory.find?_insert] at found
    split at found
    · rename_i here
      cases found
      subst here
      obtain ⟨o, among, rfl⟩ := List.mem_map.mp member
      obtain ⟨before, unlisted⟩ := List.mem_filter.mp among
      exact ⟨⟨source, known, List.mem_map_of_mem before⟩, fun _ => of_decide_eq_true unlisted⟩
    · rename_i elsewhere
      exact ⟨⟨p, found, member⟩, fun here => absurd here elsewhere⟩
  constructor
  · intro other elsewhere id lodged
    cases other with
    | habitat => exact absurd rfl elsewhere
    | population name =>
        obtain ⟨p, found, member⟩ := lodged
        exact (stays name p found id member).1
  · intro id lodged
    obtain ⟨r, found⟩ := Directory.contains_iff.mp lodged
    rw [arrival.residents] at found
    split at found
    · rename_i o arrived
      have keyed : o.id = id := by simpa using List.find?_some arrived
      subst keyed
      obtain ⟨old, taken, ⟨-, rfl⟩ | ⟨-, fresh, -⟩⟩ :=
        settlement.origin (List.mem_of_find?_eq_some arrived)
      · obtain ⟨id, listed, sought⟩ := List.mem_filterMap.mp taken
        obtain rfl := Population.id_of_find? sought
        refine Or.inr (Or.inr ?_)
        intro other elsewhere lodged
        cases other with
        | habitat => exact elsewhere rfl
        | population name =>
            obtain ⟨p, found, member⟩ := lodged
            obtain ⟨before, left⟩ := stays name p found o.id member
            have there : e.Lodges (.population population) o.id :=
              ⟨source, known, List.mem_map_of_mem (Population.mem_of_find? sought)⟩
            have same := separate o.id _ _ before there
            exact left (Home.population.inj same) (List.mem_eraseDups.mp listed)
      · exact Or.inr (Or.inl (fresh.mono room))
    · exact Or.inl (Directory.contains_iff.mpr ⟨r, found⟩)

/-- Selections on all populations are selections on one after the other. -/
theorem Separate.runCycle (separate : e.Separate) (settled : e.Settled limit)
    {reports : List SelectionReport} {n : Nursery} {supply : IdSupply}
    (performed : e.nursery.runCycle e.supply now = .ok (reports, n, supply))
    (room : supply.issued ≤ limit) : (⟨e.habitat, n, supply⟩ : Ecosystem).Separate := by
  obtain ⟨-, last, -, selected, rfl⟩ := Nursery.of_runCycle performed
  -- there was room all along if there is some in the end
  have kept := Nursery.kept_of_selectAll
    (fun n reached => reached.issued ≤ limit →
      (⟨e.habitat, n, reached⟩ : Ecosystem).Separate ∧
        (⟨e.habitat, n, reached⟩ : Ecosystem).Settled limit)
    (fun {n _ supply _ _ _} before performed room => by
      have advances := Nursery.advances_of_performSelection performed
      obtain ⟨separate, settled⟩ := before (Nat.le_trans advances.issued room)
      let between : Ecosystem := ⟨e.habitat, n, supply⟩
      have moves : Moves limit between _ _ := moves_performSelection performed room
      have effect : between.Effect now _ _ _ := .performSelection performed
      exact ⟨moves.separate settled separate,
        settled.effect (by exact trivial) (List.forall_mem_nil _) effect room⟩)
    (fun _ => ⟨separate, settled⟩) selected
  exact (kept room).1.of_growsBy (.refl _) rfl

/-- A request that founds no population and changes no ids leaves each id at one home, if no
population has the id of an organism that comes. -/
theorem Separate.effect {α : Type} {request : Request α} {answer : α} (separate : e.Separate)
    (settled : e.Settled limit) (natural : ¬request.Founds)
    (apart : ∀ o ∈ request.entering, ∀ name, ¬e.Lodges (.population name) o.id)
    (effect : e.Effect now request answer later) (room : later.supply.issued ≤ limit) :
    later.Separate := by
  cases effect with
  | register o =>
      exact (moves_registered (apart o List.mem_cons_self) room).separate settled separate
  | execute found => exact separate.of_growsBy (.of_insert found _ rfl rfl) rfl
  | evolve found => exact separate.of_growsBy (.of_insert found _ rfl rfl) rfl
  | modify f found => exact separate.of_growsBy (.of_insert found _ rfl rfl) rfl
  | remove => exact separate.of_growsBy (.erase _ _) rfl
  | removeNothing => exact separate
  | tick => exact separate.of_growsBy (.tick _ now) rfl
  | shutdown => exact separate.of_growsBy (.shutdown _) rfl
  | registerStrategy => exact separate.of_growsBy (.refl _) rfl
  | registerLandscape => exact separate.of_growsBy (.refl _) rfl
  | createPopulation => exact absurd trivial natural
  | removePopulation held => exact separate.erase _
  | performSelection performed =>
      exact (moves_performSelection performed room).separate settled separate
  | runCycle performed => exact separate.runCycle settled performed room
  | harvest => exact (settled.moves_harvested separate room).separate settled separate
  | release known held =>
      exact (settled.moves_released separate known held room).separate settled separate
  | @releaseAll population source known =>
      have all : ∀ id ∈ source.ids, source.contains id = true :=
        fun id member => List.contains_iff_mem.mpr member
      exact ((settled.moves_released separate known all room).separate settled separate).erase _

/-! ## Runs -/

/-- An ecosystem after any number of requests, in which organisms come from outside only to the
habitat, one at a time and admitted by a rule.  The ids in front of the limit are different, they
come with no organism in advance, and no more of them are given out. -/
inductive Peopled (Admits : Ecosystem → Organism → Prop) (limit : Nat) : Ecosystem → Prop where
  | founded (c : Config) (habitatSeed nurserySeed : Nat) (supply : IdSupply)
      (distinct : supply.DistinctUpTo limit) :
      Peopled Admits limit (founded c habitatSeed nurserySeed supply)
  | step {e later : Ecosystem} {x : Exchange} (before : Peopled Admits limit e)
      (faithful : x.request.KeepsIds) (natural : ¬x.request.Founds)
      (entering : ∀ o ∈ x.entering, ¬e.supply.Pending limit o.id ∧ Admits e o)
      (served : e.Serves x later) (room : later.supply.issued ≤ limit) :
      Peopled Admits limit later

theorem separate_founded (c : Config) (habitatSeed nurserySeed : Nat) (supply : IdSupply) :
    (founded c habitatSeed nurserySeed supply).Separate := by
  intro id home other here
  cases home with
  | habitat => cases here
  | population name =>
      obtain ⟨p, held, -⟩ := here
      cases held

/-- **Each id at one home.**  If organisms are only admitted under ids that no population has,
each id is found in the habitat alone or in one population alone.  An organism whose id some
population has must not be admitted then: its id would be found at two homes. -/
theorem separate_of_peopled
    (peopled : Peopled (fun e o => ∀ name, ¬e.Lodges (.population name) o.id) limit e) :
    e.Separate ∧
      ∀ o name, e.Lodges (.population name) o.id → ¬(e.registered o).2.Separate := by
  have separate : e.Settled limit ∧ e.Separate := by
    induction peopled with
    | founded c habitatSeed nurserySeed supply distinct =>
        exact ⟨(sound_founded c habitatSeed nurserySeed distinct).settled, separate_founded _ _ _ _⟩
    | @step e later x before faithful natural entering served room inductionHypothesis =>
        obtain ⟨settled, separate⟩ := inductionHypothesis
        rcases of_served served with ⟨answer, granted, effect⟩ | ⟨fault, -, -, rfl⟩
        · simp only [Exchange.entering, granted] at entering
          exact ⟨settled.effect faithful (fun o member => (entering o member).1) effect room,
            separate.effect settled natural (fun o member => (entering o member).2) effect room⟩
        · exact ⟨settled, separate⟩
  obtain ⟨-, separate⟩ := separate
  refine ⟨separate, ?_⟩
  intro o name there both
  -- the habitat does not have the id yet, so that the organism is registered under it
  have free : e.habitat.contains o.id = false := by
    rw [← Bool.not_eq_true]
    intro here
    cases separate o.id .habitat (.population name) here there
  have here : (e.registered o).2.Lodges .habitat o.id := by
    obtain ⟨registered, middle, ⟨-, rfl, rfl⟩ | ⟨taken, -, -⟩, enrolled⟩ :=
      e.habitat.enroll_enters e.supply o
    · unfold Ecosystem.registered
      rw [enrolled]
      exact (e.habitat.contains_insert _ _ _).mpr (Or.inr rfl)
    · cases free.symm.trans taken
  cases both o.id .habitat (.population name) here there

variable {Admits : Ecosystem → Organism → Prop}

/-- A request with an effect is a step. -/
theorem Peopled.after {α : Type} {request : Request α} {answer : α}
    (peopled : Peopled Admits limit e) (now : Instant)
    (effect : e.Effect now request answer later) (faithful : request.KeepsIds)
    (natural : ¬request.Founds)
    (entering : ∀ o ∈ request.entering, ¬e.supply.Pending limit o.id ∧ Admits e o)
    (room : later.supply.issued ≤ limit) : Peopled Admits limit later := by
  have granted : e.Serves (Exchange.granted now request answer) later := serves_of_effect effect
  exact peopled.step (by exact faithful) (by exact natural) (by exact entering) granted room

/-- A newt is registered, and moves to a pond. -/
theorem peopled_pond (admitted : Admits wasteland newt) : Peopled Admits 100 pond := by
  have founded : Peopled Admits 100 wasteland :=
    Peopled.founded _ _ _ _ (IdSupply.numbered_distinct (by decide))
  have registering : wasteland.perform ⟨0, 0⟩ (.register newt) =
      .ok (newt.normalize, clearing) := rfl
  have cleared : Peopled Admits 100 clearing :=
    founded.after ⟨0, 0⟩ (effect_of_perform registering) trivial not_false
      (List.forall_mem_singleton.mpr ⟨newt_not_pending, admitted⟩) (by decide +kernel)
  have known : clearing.nursery.strategies.find? "balanced" = some Strategy.balanced := rfl
  have dug : Peopled Admits 100 pondside :=
    cleared.after ⟨0, 0⟩ (.harvest "pond" known (List.forall_mem_nil _)) trivial not_false
      (List.forall_mem_nil _) (by decide +kernel)
  have there : ∀ id ∈ [newt.id, newt.id], pondside.habitat.contains id = true := by decide +kernel
  exact dug.after ⟨0, 0⟩ (.harvest "pond" known there) trivial not_false (List.forall_mem_nil _)
    (by decide +kernel)

theorem lodges_newt : pond.Lodges (.population "pond") newt.id := by
  have member : stock.ids.contains newt.id = true := by decide +kernel
  exact ⟨stock, find?_stock, List.contains_iff_mem.mp member⟩

/-- The newt was moved to the pond, and is found there alone.  If another one came under its id,
it would be found at two homes. -/
theorem separate_of_peopled_newt : pond.Separate ∧ ¬(pond.registered newt).2.Separate := by
  have nowhere : ∀ name, ¬wasteland.Lodges (.population name) newt.id := by
    rintro name ⟨p, held, -⟩
    cases held
  obtain ⟨separate, conflict⟩ := separate_of_peopled (peopled_pond nowhere)
  exact ⟨separate, conflict newt "pond" lodges_newt⟩

/-- Another newt with the same id is admitted, and both homes have the id. -/
theorem not_separate_newt :
    ∃ e, Peopled (fun _ _ => True) 100 e ∧
      e.Lodges .habitat newt.id ∧ e.Lodges (.population "pond") newt.id ∧ ¬e.Separate := by
  have unlike : ¬pond.supply.Pending 100 newt.id :=
    IdSupply.not_pending_of_advances ⟨rfl, Nat.zero_le _⟩ newt_not_pending
  have admitted : Peopled (fun _ _ => True) 100 (pond.registered newt).2 :=
    (peopled_pond trivial).after ⟨0, 0⟩ (.register newt rfl) trivial not_false
      (List.forall_mem_singleton.mpr ⟨unlike, trivial⟩) (by decide +kernel)
  have here : (pond.registered newt).2.Lodges .habitat newt.id := by
    show (pond.registered newt).2.habitat.contains newt.id = true
    decide +kernel
  have there : (pond.registered newt).2.Lodges (.population "pond") newt.id := lodges_newt
  refine ⟨_, admitted, here, there, ?_⟩
  intro separate
  cases separate newt.id .habitat (.population "pond") here there

end Ecosystem

end Vivarium
