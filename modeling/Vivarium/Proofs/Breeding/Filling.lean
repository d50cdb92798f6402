import Vivarium.Proofs.Breeding.Settling

/-!
# Filling with clones

A population that is founded with fewer organisms than it should have is filled
with clones.  Their ids are fresh, so that none of them is ever in the way of
another organism and each stands in the population under the id that was drawn
for it.

Main definitions:

* `Organism.IsCloneOf`: a mutated copy of a seed, one generation on;
* `Event.Announces`: the event of such a copy;
* `IsFilling`: what filling comes to.

Main statements:

* `yields_drawClones`: as many clones as asked for, unless there are no seeds;
* `fill_appends`: clones stand behind the others;
* `enrollClones_eq`: they do so under the next fresh ids;
* `fill_eq`, `fill_isFilling`: what filling does to a population and to the nursery.
-/

namespace Vivarium

open Draw

/-- The organism, but for its id, is a seed one generation on after one mutation. -/
def Organism.IsCloneOf (now : Instant) (seed clone : Organism) : Prop :=
  ∃ kind outcome mutated,
    (Mutation.apply (seed.successor now) kind).Yields (mutated, outcome) ∧
      clone = { mutated with id := clone.id }

theorem Organism.IsCloneOf.isNormal {now : Instant} {seed clone : Organism}
    (kinship : Organism.IsCloneOf now seed clone) : clone.IsNormal := by
  obtain ⟨kind, outcome, mutated, possible, same⟩ := kinship
  have normal : mutated.IsNormal := isNormal_of_yields_apply possible
  rw [same]
  exact normal

/-- The event announces the clone of a seed: it names the clone, and tells of the one mutation
that made it. -/
def Event.Announces (event : Event) (population : String) (now : Instant)
    (seed clone : Organism) : Prop :=
  ∃ kind ∈ Mutation.Kind.breeding, ∃ outcome mutated,
    (Mutation.apply (seed.successor now) kind).Yields (mutated, outcome) ∧
      clone = { mutated with id := clone.id } ∧
      event = ⟨.mutation, now, some clone.id, population, .cloned kind, outcome.magnitude⟩

theorem Event.Announces.isCloneOf {event : Event} {population : String} {now : Instant}
    {seed clone : Organism} (announces : event.Announces population now seed clone) :
    Organism.IsCloneOf now seed clone := by
  obtain ⟨kind, -, outcome, mutated, possible, same, -⟩ := announces
  exact ⟨kind, outcome, mutated, possible, same⟩

/-- The id of a clone makes no difference to whose clone it is. -/
theorem Organism.IsCloneOf.renamed {now : Instant} {seed clone : Organism}
    (kinship : Organism.IsCloneOf now seed clone) (id : OrganismId) :
    Organism.IsCloneOf now seed { clone with id := id } := by
  obtain ⟨kind, outcome, mutated, possible, same⟩ := kinship
  refine ⟨kind, outcome, mutated, possible, ?_⟩
  rw [same]

/-! ## Drawing clones -/

/-- A clone that is drawn is announced by its event, whatever id it is given. -/
theorem announces_of_yields_drawClone {now : Instant} {parent : Organism} {clone : Clone}
    (possible : (drawClone parent now).Yields clone) (id : OrganismId) (population : String) :
    (clone.event id population now).Announces population now parent
      { clone.organism with id := id } := by
  obtain ⟨kind, choice, possible⟩ := yields_bind possible
  obtain ⟨⟨mutated, outcome⟩, drawn, possible⟩ := yields_bind possible
  cases yields_pure.mp possible
  have breeding := Organism.mem_of_yields_drawKind (by decide) choice
  refine ⟨kind, breeding, outcome, mutated, drawn, rfl, ?_⟩
  rw [Clone.event, Mutation.kind_of_yields_apply drawn]

theorem isCloneOf_of_yields_drawClone {now : Instant} {parent : Organism} {clone : Clone}
    (possible : (drawClone parent now).Yields clone) :
    Organism.IsCloneOf now parent clone.organism :=
  (announces_of_yields_drawClone possible clone.organism.id "").isCloneOf

/-- The seeds decide how many clones there are: none of no seeds, and of some seeds
as many as asked for.  Each is drawn of one of the seeds. -/
theorem yields_drawClones {seeds : List Organism} {now : Instant} {count : Nat}
    {clones : List Clone} (possible : (drawClones seeds now count).Yields clones) :
    clones.length = (if seeds = [] then 0 else count) ∧
      ∀ clone ∈ clones, ∃ seed ∈ seeds, (drawClone seed now).Yields clone := by
  induction count generalizing clones with
  | zero =>
      cases yields_pure.mp possible
      exact ⟨(ite_self 0).symm, fun clone member => nomatch member⟩
  | succ count inductionHypothesis =>
      obtain ⟨chosen, choice, possible⟩ := yields_bind possible
      by_cases barren : seeds = []
      · -- without seeds the first choice comes to nothing and ends the drawing
        subst barren
        cases yields_choose_nil choice
        cases yields_pure.mp possible
        exact ⟨rfl, fun clone member => nomatch member⟩
      · obtain ⟨parent, among, rfl⟩ := mem_of_yields_choose barren choice
        obtain ⟨clone, cloneDrawn, possible⟩ := yields_bind possible
        obtain ⟨rest, restDrawn, possible⟩ := yields_bind possible
        cases yields_pure.mp possible
        obtain ⟨counted, kinship⟩ := inductionHypothesis restDrawn
        rw [if_neg barren] at counted ⊢
        exact ⟨congrArg (· + 1) counted,
          List.forall_mem_cons.mpr ⟨⟨parent, among, cloneDrawn⟩, kinship⟩⟩

/-! ## Enrolling clones -/

theorem enrollClones_advances (p : Population) (now : Instant) (supply : IdSupply)
    (clones : List Clone) : supply.Advances (enrollClones p now supply clones).2.2 := by
  induction clones generalizing p supply with
  | nil => exact IdSupply.Advances.refl supply
  | cons clone rest inductionHypothesis =>
      obtain ⟨settled, middle, enters, enrolled⟩ :=
        p.enroll_enters supply.next.2 { clone.organism with id := supply.next.1 }
      simp only [enrollClones, enrolled]
      exact supply.advances_next.trans (enters.advances.trans (inductionHypothesis _ _))

/-- Each clone takes at least one fresh id. -/
theorem le_issued_enrollClones (p : Population) (now : Instant) (supply : IdSupply)
    (clones : List Clone) :
    supply.issued + clones.length ≤ (enrollClones p now supply clones).2.2.issued := by
  induction clones generalizing p supply with
  | nil => exact Nat.le_refl _
  | cons clone rest inductionHypothesis =>
      obtain ⟨settled, middle, enters, enrolled⟩ :=
        p.enroll_enters supply.next.2 { clone.organism with id := supply.next.1 }
      simp only [enrollClones, enrolled, List.length_cons]
      have one : supply.issued + 1 ≤ middle.issued := enters.advances.issued
      refine Nat.le_trans ?_ (inductionHypothesis _ middle)
      omega

/-- Clones that are normal stand behind the others under the next fresh ids, and
there is an event for each, which names it. -/
theorem enrollClones_eq {p : Population} {now : Instant} {supply : IdSupply}
    {clones : List Clone} {limit : Nat} (distinct : supply.DistinctUpTo limit)
    (places : ∀ id ∈ p.ids, ¬supply.Pending limit id)
    (normal : ∀ clone ∈ clones, clone.organism.IsNormal)
    (room : supply.issued + clones.length ≤ limit) :
    let ids := supply.upcoming clones.length
    enrollClones p now supply clones =
      ({ p with organisms := p.organisms ++ named (clones.map (·.organism)) ids },
        List.zipWith (fun clone id => clone.event id p.name now) clones ids,
        supply.skip clones.length) := by
  induction clones generalizing p supply with
  | nil =>
      simp only [enrollClones, List.map_nil, named, List.zipWith_nil_left, List.append_nil,
        List.length_nil, IdSupply.skip_zero]
  | cons clone rest inductionHypothesis =>
      obtain ⟨settled, middle, enters, enrolled⟩ :=
        p.enroll_enters supply.next.2 { clone.organism with id := supply.next.1 }
      simp only [enrollClones, enrolled]
      rw [List.length_cons] at room
      have left : supply.issued < limit := by omega
      -- a fresh id is not taken, so that no second one is drawn
      rcases enters with ⟨-, rfl, rfl⟩ | ⟨taken, -, -⟩
      · have unchanged : Organism.normalize { clone.organism with id := supply.next.1 } =
            { clone.organism with id := supply.next.1 } :=
          Organism.normalize_eq_self.mpr (normal clone List.mem_cons_self)
        rw [unchanged]
        have free : ∀ id ∈ ({ p with organisms := p.organisms ++
            [{ clone.organism with id := supply.next.1 }] } : Population).ids,
            ¬supply.next.2.Pending limit id := by
          intro id member
          rcases (p.mem_ids_append _ id).mp member with before | rfl
          · exact IdSupply.not_pending_of_advances supply.advances_next (places id before)
          · exact IdSupply.not_pending_next distinct left
        have others : supply.next.2.issued + rest.length ≤ limit := by
          rw [IdSupply.next_issued]
          omega
        rw [inductionHypothesis (distinct.of_advances supply.advances_next) free
          (fun x member => normal x (List.mem_cons_of_mem _ member)) others]
        simp only [List.map_cons, List.length_cons, IdSupply.upcoming_succ, named,
          List.zipWith_cons_cons, List.append_assoc, List.cons_append, List.nil_append,
          IdSupply.skip_succ]
      · exact absurd (IdSupply.pending_next left) (places _ taken)

/-! ## Filling -/

theorem fill_advances (n : Nursery) (p : Population) (seeds : List Organism) (size : Nat)
    (now : Instant) (supply : IdSupply) :
    supply.Advances (n.fill p seeds size now supply).2.2 :=
  enrollClones_advances p now supply _

/-- Whatever ids the clones are given, they stand behind the organisms that are there, and are
clones still. -/
theorem enrollClones_appends {seeds : List Organism} {now : Instant} {clones : List Clone}
    (kinship : ∀ clone ∈ clones, ∃ seed ∈ seeds, Organism.IsCloneOf now seed clone.organism)
    (p : Population) (supply : IdSupply) :
    ∃ added, (enrollClones p now supply clones).1.organisms = p.organisms ++ added ∧
      ∀ clone ∈ added, ∃ seed ∈ seeds, Organism.IsCloneOf now seed clone := by
  induction clones generalizing p supply with
  | nil => exact ⟨[], (List.append_nil _).symm, List.forall_mem_nil _⟩
  | cons clone rest inductionHypothesis =>
      obtain ⟨⟨seed, among, kin⟩, others⟩ := List.forall_mem_cons.mp kinship
      obtain ⟨settled, middle, enters, enrolled⟩ :=
        p.enroll_enters supply.next.2 { clone.organism with id := supply.next.1 }
      have renamed := kin.renamed supply.next.1
      have settledKin : Organism.IsCloneOf now seed settled := by
        rw [enters.eq_withId, Organism.normalize_eq_self.mpr renamed.isNormal]
        exact renamed.renamed settled.id
      obtain ⟨added, appended, addedKin⟩ :=
        inductionHypothesis others { p with organisms := p.organisms ++ [settled] } middle
      refine ⟨settled :: added, ?_, List.forall_mem_cons.mpr ⟨⟨seed, among, settledKin⟩, addedKin⟩⟩
      simp only [enrollClones, enrolled, appended, List.append_assoc, List.cons_append,
        List.nil_append]

theorem fill_appends (n : Nursery) (p : Population) (seeds : List Organism) (size : Nat)
    (now : Instant) (supply : IdSupply) :
    ∃ added, (n.fill p seeds size now supply).1.organisms = p.organisms ++ added ∧
      ∀ clone ∈ added, ∃ seed ∈ seeds, Organism.IsCloneOf now seed clone := by
  obtain ⟨-, kinship⟩ := yields_drawClones (yields_run (drawClones seeds now (size - p.size)) n.rng)
  refine enrollClones_appends (fun clone member => ?_) p supply
  obtain ⟨seed, among, drawn⟩ := kinship clone member
  exact ⟨seed, among, isCloneOf_of_yields_drawClone drawn⟩

/-- Clones under their ids, with the events that announce them. -/
theorem forall₂_announces {seeds : List Organism} {now : Instant} {clones : List Clone}
    (kinship : ∀ clone ∈ clones, ∃ seed ∈ seeds, (drawClone seed now).Yields clone)
    (population : String) (ids : List OrganismId) :
    List.Forall₂ (fun clone event => ∃ seed ∈ seeds, event.Announces population now seed clone)
      (named (clones.map (·.organism)) ids)
      (List.zipWith (fun clone id => clone.event id population now) clones ids) := by
  induction clones generalizing ids with
  | nil => exact List.Forall₂.nil
  | cons clone rest inductionHypothesis =>
      obtain ⟨⟨seed, among, drawn⟩, others⟩ := List.forall_mem_cons.mp kinship
      cases ids with
      | nil => exact List.Forall₂.nil
      | cons id ids =>
          have announced := announces_of_yields_drawClone drawn id population
          exact List.Forall₂.cons ⟨seed, among, announced⟩ (inductionHypothesis others ids)

/-- Whatever is announced as a clone of some seeds is one. -/
theorem isCloneOf_of_announced {seeds clones : List Organism} {events : List Event}
    {population : String} {now : Instant}
    (announced : List.Forall₂
      (fun clone event => ∃ seed ∈ seeds, event.Announces population now seed clone)
      clones events) :
    ∀ clone ∈ clones, ∃ seed ∈ seeds, Organism.IsCloneOf now seed clone := by
  have both := announced.imp fun clone event told =>
    And.intro (told.imp fun seed => And.imp_right Event.Announces.isCloneOf) told
  exact ((List.forall₂_and_left _ _).mp both).1

/-- A population is filled with clones of the seeds, as many as are missing.  They stand behind
the others under the next fresh ids, and each is announced by an event and counted as a
mutation. -/
theorem fill_eq (n : Nursery) {p : Population} {seeds : List Organism} {size : Nat}
    (now : Instant) {supply : IdSupply} {limit : Nat} (distinct : supply.DistinctUpTo limit)
    (places : ∀ id ∈ p.ids, ¬supply.Pending limit id)
    (room : supply.issued + (if seeds = [] then 0 else size - p.size) ≤ limit) :
    ∃ clones events rng,
      n.fill p seeds size now supply =
        ({ p with
            organisms := p.organisms ++ clones
            metrics := Metrics.measure (p.organisms ++ clones) n.config.speciesBucketWidth },
          { n with
            rng := rng
            counters := { n.counters with mutations := n.counters.mutations + events.length }
            history := n.history.pushAll events },
          supply.skip clones.length) ∧
        clones.length = (if seeds = [] then 0 else size - p.size) ∧
        clones.map (·.id) = supply.upcoming clones.length ∧
        List.Forall₂ (fun clone event => ∃ seed ∈ seeds, event.Announces p.name now seed clone)
          clones events := by
  unfold Nursery.fill
  generalize run : (drawClones seeds now (size - p.size)).run n.rng = drawn
  obtain ⟨drawnClones, later⟩ := drawn
  obtain ⟨counted, kinship⟩ := yields_drawClones ⟨n.rng, congrArg Prod.fst run⟩
  dsimp only at counted kinship ⊢
  have normal : ∀ clone ∈ drawnClones, clone.organism.IsNormal := by
    intro clone member
    obtain ⟨seed, -, drawn⟩ := kinship clone member
    exact (isCloneOf_of_yields_drawClone drawn).isNormal
  rw [← counted] at room ⊢
  rw [enrollClones_eq distinct places normal room]
  have sameLength : (supply.upcoming drawnClones.length).length =
      (drawnClones.map (·.organism)).length := by
    rw [IdSupply.length_upcoming, List.length_map]
  have length : (named (drawnClones.map (·.organism))
      (supply.upcoming drawnClones.length)).length = drawnClones.length := by
    rw [length_named sameLength, List.length_map]
  refine ⟨named (drawnClones.map (·.organism)) (supply.upcoming drawnClones.length),
    List.zipWith (fun clone id => clone.event id p.name now) drawnClones
      (supply.upcoming drawnClones.length), later, ?_, length, ?_,
    forall₂_announces kinship p.name _⟩
  · rw [length]
    rfl
  · rw [length, map_id_named sameLength]

/-- What filling comes to: clones of the seeds stand behind the others, as many as
are missing, and the nursery has only drawn and taken notes. -/
structure IsFilling (n : Nursery) (p : Population) (seeds : List Organism) (size : Nat)
    (now : Instant) (supply : IdSupply) (clones : List Organism)
    (filled : Population × Nursery × IdSupply) : Prop where
  population : filled.1 =
    { p with
      organisms := p.organisms ++ clones
      metrics := Metrics.measure (p.organisms ++ clones) n.config.speciesBucketWidth }
  nursery : ∃ rng counters history,
    filled.2.1 = { n with rng := rng, counters := counters, history := history }
  skipped : filled.2.2 = supply.skip clones.length
  size : clones.length = if seeds = [] then 0 else size - p.size
  ids : clones.map (·.id) = supply.upcoming clones.length
  kinship : ∀ clone ∈ clones, ∃ seed ∈ seeds, Organism.IsCloneOf now seed clone

/-- Filling takes a fresh id for each clone. -/
theorem le_issued_fill (n : Nursery) (p : Population) (seeds : List Organism) (size : Nat)
    (now : Instant) (supply : IdSupply) :
    supply.issued + (if seeds = [] then 0 else size - p.size) ≤
      (n.fill p seeds size now supply).2.2.issued := by
  obtain ⟨counted, -⟩ := yields_drawClones (yields_run (drawClones seeds now (size - p.size)) n.rng)
  rw [← counted]
  exact le_issued_enrollClones p now supply _

theorem fill_isFilling (n : Nursery) {p : Population} {seeds : List Organism} {size : Nat}
    {now : Instant} {supply : IdSupply} {limit : Nat} (distinct : supply.DistinctUpTo limit)
    (places : ∀ id ∈ p.ids, ¬supply.Pending limit id)
    (room : (n.fill p seeds size now supply).2.2.issued ≤ limit) :
    ∃ clones, IsFilling n p seeds size now supply clones
      (n.fill p seeds size now supply) := by
  obtain ⟨clones, events, rng, filled, counted, ids, announced⟩ := fill_eq n now
    distinct places (Nat.le_trans (le_issued_fill n p seeds size now supply) room)
  rw [filled]
  exact ⟨clones, rfl, ⟨rng, _, _, rfl⟩, rfl, counted, ids, isCloneOf_of_announced announced⟩

end Vivarium
