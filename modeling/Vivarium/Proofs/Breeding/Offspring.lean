import Mathlib.Order.Bounds.Defs
import Vivarium.Breeding.Selection
import Vivarium.Proofs.Breeding.Supply
import Vivarium.Proofs.Organism.Normal

/-!
# Offspring

A child is *born* of two parents, either as the first one a generation on or as
their crossover, and is then left alone or mutated once.  Selection draws the
children of a litter first and gives them their ids afterwards.  This module says
what a litter is, and what becomes of it when it is named, for every random
stream.

Main definitions:

* `Organism.IsBornOf`, `Organism.IsChildOf`: a newborn of two parents, and a child
  of two parents up to its id.

Main statements:

* `tournament_eq`: the winner of a tournament is the least of the ranks that are drawn for it;
* `lt_of_yields_tournament`: it is one of the ranks that can be drawn;
* `yields_drawLitter`: a litter has the size asked for, and all its parents come
  from the pool;
* `nameOffspring_spec`: the children are named in order with the next fresh ids;
* `named_drawLitter`: a litter under its ids.
-/

namespace Vivarium

open Draw

/-! ## Children -/

namespace Organism

/-- The organism is born now: the first parent a generation on, or a crossover of
both parents. -/
def IsBornOf (eliteBias : Float) (now : Instant) (mother father born : Organism) : Prop :=
  born = mother.successor now ∨
    ∃ crossed, (crossover mother father eliteBias).Yields crossed ∧
      born = { crossed with createdAt := now, lastEvolutionAt := none }

/-- The organism is the given one or comes out of one mutation of it. -/
def IsVariantOf (born child : Organism) : Prop :=
  child = born ∨ ∃ kind outcome, (Mutation.apply born kind).Yields (child, outcome)

/-- The organism, but for its id, is a variant of a newborn of two parents. -/
def IsChildOf (eliteBias : Float) (now : Instant) (mother father child : Organism) : Prop :=
  ∃ born, IsBornOf eliteBias now mother father born ∧
    born.IsVariantOf { child with id := mother.id }

variable {eliteBias : Float} {now : Instant} {mother father born child : Organism}

theorem IsBornOf.record (birth : IsBornOf eliteBias now mother father born) :
    born.id = mother.id ∧ born.createdAt = now ∧ born.lastEvolutionAt = none := by
  rcases birth with rfl | ⟨crossed, possible, rfl⟩
  · exact ⟨rfl, rfl, rfl⟩
  · obtain ⟨genes, rfl⟩ := eq_withBody_of_yields_crossover possible
    exact ⟨rfl, rfl, rfl⟩

theorem IsVariantOf.record (variant : born.IsVariantOf child) :
    child.id = born.id ∧ child.createdAt = born.createdAt ∧
      child.lastEvolutionAt = born.lastEvolutionAt := by
  rcases variant with rfl | ⟨kind, outcome, possible⟩
  · exact ⟨rfl, rfl, rfl⟩
  · obtain ⟨body, rfl, -, -⟩ := Mutation.eq_withBody_of_yields_apply possible
    exact ⟨rfl, rfl, rfl⟩

/-- A child is born now and has not evolved yet. -/
theorem IsChildOf.times (kinship : IsChildOf eliteBias now mother father child) :
    child.createdAt = now ∧ child.lastEvolutionAt = none := by
  obtain ⟨born, birth, variant⟩ := kinship
  obtain ⟨-, created, evolved⟩ := birth.record
  obtain ⟨-, sameCreated, sameEvolved⟩ := variant.record
  exact ⟨sameCreated.trans created, sameEvolved.trans evolved⟩

/-- A child of normal parents is normal; a crossover is normal in any case. -/
theorem IsChildOf.isNormal (kinship : IsChildOf eliteBias now mother father child)
    (normal : mother.IsNormal) : child.IsNormal := by
  obtain ⟨born, birth, variant⟩ := kinship
  have bornNormal : born.IsNormal := by
    rcases birth with rfl | ⟨crossed, possible, rfl⟩
    · exact isNormal_successor normal now
    · obtain ⟨genes, rfl⟩ := eq_withBody_of_yields_crossover possible
      exact State.isNormal_normalize _
  rcases variant with same | ⟨kind, outcome, possible⟩
  · exact State.IsNormal.of_vitals bornNormal (congrArg (·.state.vitals) same)
  · exact State.IsNormal.of_vitals (isNormal_of_yields_apply possible) rfl

end Organism

/-! ## Tournaments -/

theorem contest_eq (count best rounds : Nat) :
    contest count best rounds =
      (fun drawn => drawn.foldl min best) <$> (below64 count).times rounds := by
  induction rounds generalizing best with
  | zero => rfl
  | succ rounds inductionHypothesis =>
      simp only [contest, times, inductionHypothesis, map_bind, bind_pure_comp, Functor.map_map,
        List.foldl_cons]

/-- A tournament draws its contestants one after the other, at least one of them, and the least
rank of theirs wins. -/
theorem tournament_eq (count size : Nat) :
    tournament count size =
      (fun drawn => drawn.min?.getD 0) <$> (below64 count).times (max 1 size) := by
  have rounds : max 1 size = size - 1 + 1 := by omega
  rw [rounds]
  simp only [tournament, times, contest_eq, map_bind, bind_pure_comp, Functor.map_map,
    List.min?_cons', Option.getD_some]

/-- Of ranks that were drawn there is a least one. -/
theorem isLeast_min? {drawn : List Nat} (nonempty : drawn ≠ []) :
    IsLeast {index | index ∈ drawn} (drawn.min?.getD 0) := by
  obtain ⟨least, taken⟩ := Option.isSome_iff_exists.mp (List.isSome_min?_of_ne_nil nonempty)
  rw [taken]
  exact List.min?_eq_some_iff.mp taken

/-- The winner of a tournament is one of the contestants. -/
theorem lt_of_yields_tournament {count size winner : Nat} (positive : 0 < count)
    (possible : (tournament count size).Yields winner) : winner < count := by
  rw [tournament_eq] at possible
  obtain ⟨drawn, drawnTogether, rfl⟩ := yields_map possible
  obtain ⟨counted, eachDrawn⟩ := yields_times drawnTogether
  have nonempty : drawn ≠ [] := List.length_pos_iff.mp (by omega)
  exact lt_of_yields_below64 positive (eachDrawn _ (isLeast_min? nonempty).1)

/-- A parent that is drawn by a tournament is a member of the pool; the best one
never has to stand in. -/
theorem getD_mem_of_yields_tournament {pool : List Organism} {best : Organism}
    {size winner : Nat} (nonempty : pool ≠ [])
    (possible : (tournament pool.length size).Yields winner) :
    pool.getD winner best ∈ pool := by
  have bounded := lt_of_yields_tournament (List.length_pos_iff.mpr nonempty) possible
  rw [List.getD_eq_getElem?_getD, List.getElem?_eq_getElem bounded, Option.getD_some]
  exact List.getElem_mem bounded

/-! ## Litters -/

variable {config : NurseryConfig} {strategy : Strategy} {now : Instant}

theorem isBornOf_of_yields_drawChild {mother father born : Organism} {eliteBias : Float}
    {crossed : Bool} (possible : (drawChild mother father strategy eliteBias now).Yields
      (born, crossed)) : Organism.IsBornOf eliteBias now mother father born := by
  obtain ⟨chance, -, possible⟩ := yields_bind possible
  split at possible
  · obtain ⟨child, drawn, possible⟩ := yields_bind possible
    cases yields_pure.mp possible
    exact Or.inr ⟨child, drawn, rfl⟩
  · cases yields_pure.mp possible
    exact Or.inl rfl

theorem isVariantOf_of_yields_maybeMutate {born child : Organism}
    {outcome : Option Mutation.Outcome}
    (possible : (maybeMutate born strategy).Yields (child, outcome)) :
    born.IsVariantOf child := by
  obtain ⟨chance, -, possible⟩ := yields_bind possible
  split at possible
  · obtain ⟨kind, -, possible⟩ := yields_bind possible
    obtain ⟨⟨mutated, effect⟩, drawn, possible⟩ := yields_bind possible
    cases yields_pure.mp possible
    exact Or.inr ⟨kind, effect, drawn⟩
  · cases yields_pure.mp possible
    exact Or.inl rfl

/-- A child of the pool has both its parents in it. -/
theorem yields_drawOffspring {best : Organism} {pool : List Organism} {child : Offspring}
    (nonempty : pool ≠ [])
    (possible : (drawOffspring best pool config strategy now).Yields child) :
    ∃ mother ∈ pool, ∃ father ∈ pool,
      Organism.IsChildOf config.geneEliteBias now mother father child.organism := by
  obtain ⟨first, firstDrawn, possible⟩ := yields_bind possible
  obtain ⟨second, secondDrawn, possible⟩ := yields_bind possible
  obtain ⟨⟨born, crossed⟩, bornDrawn, possible⟩ := yields_bind possible
  obtain ⟨⟨mutated, outcome⟩, mutatedDrawn, possible⟩ := yields_bind possible
  cases yields_pure.mp possible
  have birth := isBornOf_of_yields_drawChild bornDrawn
  have variant := isVariantOf_of_yields_maybeMutate mutatedDrawn
  refine ⟨_, getD_mem_of_yields_tournament nonempty firstDrawn,
    _, getD_mem_of_yields_tournament nonempty secondDrawn, born, birth, ?_⟩
  have sameId : mutated.id = (pool.getD first best).id := variant.record.1.trans birth.record.1
  rwa [← sameId]

/-- The children of a litter are drawn one after the other. -/
theorem drawLitter_eq (best : Organism) (pool : List Organism) (config : NurseryConfig)
    (strategy : Strategy) (now : Instant) (count : Nat) :
    drawLitter best pool config strategy now count =
      (drawOffspring best pool config strategy now).times count := by
  induction count with
  | zero => rfl
  | succ count inductionHypothesis =>
      rw [drawLitter, inductionHypothesis]
      rfl

/-- A litter has the size asked for, and each child in it has both its parents in
the pool. -/
theorem yields_drawLitter {best : Organism} {pool : List Organism} {count : Nat}
    {litter : List Offspring} (nonempty : pool ≠ [])
    (possible : (drawLitter best pool config strategy now count).Yields litter) :
    litter.length = count ∧ ∀ child ∈ litter, ∃ mother ∈ pool, ∃ father ∈ pool,
      Organism.IsChildOf config.geneEliteBias now mother father child.organism := by
  rw [drawLitter_eq] at possible
  obtain ⟨counted, drawn⟩ := yields_times possible
  exact ⟨counted, fun child member => yields_drawOffspring nonempty (drawn child member)⟩

/-! ## Names -/

/-- The children of a litter, still without ids of their own. -/
def unnamed (litter : List Offspring) : List Organism := litter.map (·.organism)

/-- The children of a litter are named in order with the next ids of the supply, and
nothing else about them changes. -/
theorem nameOffspring_spec (population : String) (now : Instant) (supply : IdSupply)
    (litter : List Offspring) :
    (nameOffspring population now supply litter).1 =
        named (unnamed litter) (supply.upcoming litter.length) ∧
      (nameOffspring population now supply litter).2.2 = supply.skip litter.length := by
  induction litter generalizing supply with
  | nil => exact ⟨rfl, rfl⟩
  | cons child rest inductionHypothesis =>
      obtain ⟨organisms, later⟩ := inductionHypothesis supply.next.2
      rw [List.length_cons, IdSupply.upcoming_succ, IdSupply.skip_succ]
      exact ⟨congrArg _ organisms, later⟩

theorem nameOffspring_advances (population : String) (now : Instant) (supply : IdSupply)
    (litter : List Offspring) :
    supply.Advances (nameOffspring population now supply litter).2.2 := by
  rw [(nameOffspring_spec population now supply litter).2]
  exact supply.advances_skip _

/-- A name makes no difference to whose child an organism is. -/
theorem isChildOf_of_mem_named {litter : List Offspring} {ids : List OrganismId}
    {eliteBias : Float} {pool : List Organism} {now : Instant}
    (kinship : ∀ child ∈ litter, ∃ mother ∈ pool, ∃ father ∈ pool,
      Organism.IsChildOf eliteBias now mother father child.organism) {child : Organism}
    (member : child ∈ named (unnamed litter) ids) :
    ∃ mother ∈ pool, ∃ father ∈ pool, Organism.IsChildOf eliteBias now mother father child := by
  obtain ⟨o, among, same⟩ := mem_named member
  obtain ⟨drawn, bred, rfl⟩ := List.mem_map.mp among
  rw [same]
  exact kinship drawn bred

/-- A litter from a pool under its ids: it has the size asked for, its ids are the next ones, and
all parents are in the pool. -/
theorem named_drawLitter {best : Organism} {pool : List Organism} {config : NurseryConfig}
    {strategy : Strategy} {now : Instant} {count : Nat} {litter : List Offspring}
    (nonempty : pool ≠ [])
    (possible : (drawLitter best pool config strategy now count).Yields litter)
    (supply : IdSupply) :
    let children := named (unnamed litter) (supply.upcoming litter.length)
    litter.length = count ∧ children.length = litter.length ∧
      children.map (·.id) = supply.upcoming litter.length ∧
      ∀ child ∈ children, ∃ mother ∈ pool, ∃ father ∈ pool,
        Organism.IsChildOf config.geneEliteBias now mother father child := by
  obtain ⟨size, kinship⟩ := yields_drawLitter nonempty possible
  have names : (supply.upcoming litter.length).length = (unnamed litter).length := by
    rw [IdSupply.length_upcoming, unnamed, List.length_map]
  refine ⟨size, ?_, map_id_named names, fun child => isChildOf_of_mem_named kinship⟩
  rw [length_named names, unnamed, List.length_map]

end Vivarium
