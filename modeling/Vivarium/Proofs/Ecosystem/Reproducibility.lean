import Mathlib.Logic.Equiv.Fintype
import Mathlib.Logic.Equiv.Set
import Vivarium.Proofs.Ecosystem.Renaming
import Vivarium.Proofs.Ecosystem.Transfer

/-!
# Reproducible runs

Two runs of one script start from the same configuration and the same seeds, and differ in the
fresh ids that they are given.  What one run answers and comes to should be what the other one
does, with the fresh ids of the one in place of those of the other.

It is so as long as the residents stand in the same order in both runs whenever a tick goes
through them.  A tick hands the random stream on from resident to resident in ascending order of
the ids, and a fresh id falls where it may.  Two organisms that come with one id show this: one
of them is given a fresh id, and whether that id is the smaller or the larger one decides which
of the two draws first.

Main definitions:

* `IdSupply.IsFresh`: a supply of ids that a script does not know;
* `Renaming.Translates`: the fresh ids of one supply become those of the other, and what a script
  knows keeps its id;
* `Request.Knows`: a request only speaks of ids that are known.

Main statements:

* `Renaming.exists_translates`: there is such a renaming for any two supplies;
* `Ecosystem.reproducible_in_order`: two runs of a script;
* `Ecosystem.not_reproducible_twins`: two runs with different orders.
-/

namespace Vivarium

/-! ## Fresh ids of two runs -/

/-- No id was given out yet, and those in front of the limit are different from each other and
from all that is known. -/
structure IdSupply.IsFresh (known : Set OrganismId) (limit : Nat) (supply : IdSupply) : Prop where
  unused : supply.issued = 0
  distinct : supply.DistinctUpTo limit
  unknown : ∀ n < limit, supply.ids n ∉ known

/-- Known ids stay as they are, and each fresh id of the one supply becomes that of the other. -/
structure Renaming.Translates (known : Set OrganismId) (limit : Nat) (first second : IdSupply)
    (π : Renaming) : Prop where
  known : ∀ id ∈ known, π id = id
  fresh : ∀ n < limit, π (first.ids n) = second.ids n

variable {known : Set OrganismId} {limit : Nat} {first second supply : IdSupply} {π : Renaming}

/-- What is known and what is fresh are different ids. -/
theorem IdSupply.IsFresh.injective (fresh : supply.IsFresh known limit) :
    Function.Injective (Sum.elim (fun id : known => id.val) fun n : Fin limit => supply.ids n) := by
  refine Function.Injective.sumElim Subtype.val_injective ?_ ?_
  · intro m n same
    exact Fin.ext (fresh.distinct m n m.isLt n.isLt same)
  · intro id n same
    exact fresh.unknown n n.isLt (same ▸ id.property)

/-- The fresh ids of any two supplies can be renamed into each other. -/
theorem Renaming.exists_translates (fresh : first.IsFresh known limit)
    (freshToo : second.IsFresh known limit) :
    ∃ π : Renaming, π.Translates known limit first second := by
  classical
  have : Finite OrganismId := Finite.of_injective (fun id => id.bits.toFin) (by
    rintro ⟨a⟩ ⟨b⟩ same
    exact congrArg Uuid.mk (BitVec.eq_of_toFin_eq same))
  let ids := Equiv.ofInjective _ fresh.injective
  let idsToo := Equiv.ofInjective _ freshToo.injective
  have moved : ∀ place, (ids.symm.trans idsToo).extendSubtype (ids place) = idsToo place := by
    intro place
    rw [Equiv.extendSubtype_apply_of_mem _ _ (ids place).property]
    simp
  exact ⟨(ids.symm.trans idsToo).extendSubtype, fun id among => moved (.inl ⟨id, among⟩),
    fun n below => moved (.inr ⟨n, below⟩)⟩

/-! ## Scripts that know their ids -/

namespace Request

variable {α : Type}

/-- All ids in the request are known, and a function from outside does nothing with the id of
an organism. -/
def Knows (known : Set OrganismId) : Request α → Prop
  | register o => o.id ∈ known
  | execute id => id ∈ known
  | evolve id => id ∈ known
  | modify id f => id ∈ known ∧ ∀ o other, f { o with id := other } = { f o with id := other }
  | remove id => id ∈ known
  | createPopulation _ seeds _ => ∀ o ∈ seeds, o.id ∈ known
  | harvest ids _ _ => ∀ id ∈ ids, id ∈ known
  | release _ ids => ∀ id ∈ ids, id ∈ known
  | _ => True

/-- A function that does nothing with the id is the same under the new ones. -/
theorem conjugate_eq_self {f : Organism → Organism}
    (blind : ∀ o other, f { o with id := other } = { f o with id := other }) :
    (fun o => (f (o.renamed π.symm)).renamed π) = f := by
  funext o
  have unchanged : f o = { f o with id := o.id } := blind o o.id
  have kept : (f o).id = o.id := by rw [unchanged]
  calc (f (o.renamed π.symm)).renamed π
      = { f o with id := π (π.symm o.id) } := by rw [Organism.renamed, Organism.renamed, blind]
    _ = { f o with id := o.id } := by rw [Equiv.apply_symm_apply]
    _ = f o := by rw [← kept]

/-- A request that only speaks of known ids is the same under the new ones. -/
theorem renamed_of_knows (fixed : ∀ id ∈ known, π id = id) {request : Request α}
    (knows : request.Knows known) : request.renamed π = request := by
  have organism : ∀ o : Organism, o.id ∈ known → o.renamed π = o := by
    intro o among
    rw [Organism.renamed, fixed o.id among]
  have listed : ∀ ids : List OrganismId, (∀ id ∈ ids, id ∈ known) → ids.map π = ids := by
    intro ids among
    exact (List.map_congr_left fun id member => fixed id (among id member)).trans (List.map_id ids)
  cases request with
  | register o => exact congrArg register (organism o knows)
  | execute id => exact congrArg execute (fixed id knows)
  | evolve id => exact congrArg evolve (fixed id knows)
  | modify id f =>
      obtain ⟨among, blind⟩ := knows
      show modify (π id) _ = modify id f
      rw [fixed id among, conjugate_eq_self blind]
  | remove id => exact congrArg remove (fixed id knows)
  | createPopulation name seeds strategyName =>
      have same : seeds.map (Organism.renamed π) = seeds :=
        (List.map_congr_left fun o member => organism o (knows o member)).trans (List.map_id seeds)
      exact congrArg (fun seeds => createPopulation name seeds strategyName) same
  | harvest ids population strategyName =>
      exact congrArg (fun ids => harvest ids population strategyName) (listed ids knows)
  | release population ids => exact congrArg (release population) (listed ids knows)
  | _ => rfl

end Request

/-- A script that only speaks of known ids is the same under the new ones. -/
theorem Call.map_renamed_of_knows (fixed : ∀ id ∈ known, π id = id) {script : List Call}
    (knows : ∀ call ∈ script, call.request.Knows known) :
    script.map (Call.renamed π) = script := by
  refine (List.map_congr_left fun call member => ?_).trans (List.map_id script)
  rw [Call.renamed, Request.renamed_of_knows fixed (knows call member)]
  rfl

namespace Ecosystem

/-! ## Two runs -/

/-- **Runs are reproducible while the order lasts.**  Let a script be run twice from the same
configuration and seeds, with fresh ids from two supplies.  There is a renaming of the fresh ids
of the one supply into those of the other.  Under each such renaming all answers, and in the end
the organisms and their marks, the populations, the histories, the counters and the streams are
the same, as long as the renaming keeps the residents in order wherever the script ticks.  A
script that only speaks of ids it knows is itself the same in both runs. -/
theorem reproducible_in_order (c : Config) (habitatSeed nurserySeed : Nat)
    (fresh : first.IsFresh known limit) (freshToo : second.IsFresh known limit) :
    let start := founded c habitatSeed nurserySeed first
    let again := founded c habitatSeed nurserySeed second
    (∃ π : Renaming, π.Translates known limit first second) ∧
      ∀ π : Renaming, π.Translates known limit first second → ∀ script : List Call,
        (start.run script).2.supply.issued ≤ limit → KeepsOrder π start script →
          again.run (script.map (Call.renamed π)) =
              ((start.run script).1.map (Exchange.renamed π),
                (start.run script).2.renamed π (second.follow (start.run script).2.supply)) ∧
            ((∀ call ∈ script, call.request.Knows known) →
              script.map (Call.renamed π) = script) := by
  intro start again
  refine ⟨Renaming.exists_translates fresh freshToo, ?_⟩
  intro π translates script room ordered
  have mirrors : IdSupply.Mirrors π limit first second :=
    ⟨freshToo.unused.trans fresh.unused.symm, fun n below => (translates.fresh n below).symm⟩
  have founding : start.renamed π second = again := rfl
  have both := run_renamed (e := start) mirrors script room ordered
  rw [founding] at both
  exact ⟨both, Call.map_renamed_of_knows translates.known⟩

/-! Two newts of one id and with a gene are registered, and then there is a tick.  The second one
is given a fresh id. -/

/-- The newt under a small id and with a gene, so that it draws in a tick. -/
def twin : Organism := { newt with id := ⟨5⟩, genes := [⟨0, "swim", .actuator, "", true, 0.1⟩] }

/-- The script that registers both newts and ticks. -/
def twins : List Call :=
  [⟨_, ⟨0, 0⟩, .register twin⟩, ⟨_, ⟨0, 0⟩, .register twin⟩, ⟨_, ⟨0, 0⟩, .tick⟩]

/-- The numbers from one on as fresh ids. -/
def numbersFrom (least : Nat) : IdSupply := ⟨fun n => ⟨BitVec.ofNat 128 (least + n)⟩, 0⟩

theorem isFresh_numbersFrom (least : Nat) (apart : least = 0 ∨ 6 ≤ least) (small : least < 100) :
    (numbersFrom least).IsFresh {twin.id} 5 where
  unused := rfl
  distinct := by
    intro m n below below' same
    have numbers := congrArg (fun id : OrganismId => id.bits.toNat) same
    simp only [numbersFrom, BitVec.toNat_ofNat] at numbers
    omega
  unknown := by
    intro n below among
    have number := congrArg (fun id : OrganismId => id.bits.toNat) (Set.mem_singleton_iff.mp among)
    have five : twin.id.bits.toNat = 5 := rfl
    simp only [numbersFrom, BitVec.toNat_ofNat, five] at number
    omega

theorem knows_twins : ∀ call ∈ twins, call.request.Knows {twin.id} := by
  simp only [twins, List.forall_mem_cons]
  exact ⟨rfl, rfl, trivial, List.forall_mem_nil _⟩

/-- The fresh id is larger than the one of the newts in both runs. -/
theorem reproducible_in_order_twins :
    let start := founded Config.standard 1 2 (numbersFrom 6)
    let again := founded Config.standard 1 2 (numbersFrom 40)
    ∃ π : Renaming, π.Translates {twin.id} 5 (numbersFrom 6) (numbersFrom 40) ∧
      again.run twins =
        ((start.run twins).1.map (Exchange.renamed π),
          (start.run twins).2.renamed π ((numbersFrom 40).follow (start.run twins).2.supply)) := by
  intro start again
  obtain ⟨⟨π, translates⟩, agree⟩ := reproducible_in_order Config.standard 1 2
    (isFresh_numbersFrom 6 (by decide) (by decide))
    (isFresh_numbersFrom 40 (by decide) (by decide))
  have both : ((start.run (twins.take 2)).2.habitat).KeepsOrder π := by
    have ids : (start.run (twins.take 2)).2.habitat.ids = [⟨5⟩, ⟨6⟩] := by decide +kernel
    have old : π ⟨5⟩ = ⟨5⟩ := translates.known ⟨5⟩ rfl
    have new : π ⟨6⟩ = ⟨40⟩ := translates.fresh 0 (by decide)
    simp only [Habitat.KeepsOrder, ids, List.forall_mem_cons, old, new, List.not_mem_nil,
      false_implies, implies_true, and_true]
    decide
  have ordered : KeepsOrder π start twins := ⟨trivial, trivial, both, trivial⟩
  obtain ⟨same, script⟩ := agree π translates twins (by decide +kernel) ordered
  rw [script knows_twins] at same
  refine ⟨π, translates, ?_⟩
  dsimp only [start, again]
  exact same

/-- The fresh id is smaller than the one of the newts in one run and larger in the other.  So it
is the other newt that draws first, and the newt of the known id comes to something else. -/
theorem not_reproducible_twins :
    let first := numbersFrom 0
    let second := numbersFrom 6
    let start := founded Config.standard 1 2 first
    let again := founded Config.standard 1 2 second
    first.IsFresh {twin.id} 5 ∧ second.IsFresh {twin.id} 5 ∧
      (∀ call ∈ twins, call.request.Knows {twin.id}) ∧
      (start.run twins).2.supply.issued ≤ 5 ∧
      ∀ π : Renaming, π.Translates {twin.id} 5 first second →
        (again.run twins).2.habitat ≠ (start.run twins).2.habitat.renamed π := by
  intro first second start again
  refine ⟨isFresh_numbersFrom 0 (by decide) (by decide),
    isFresh_numbersFrom 6 (by decide) (by decide), knows_twins, by decide +kernel, ?_⟩
  intro π translates same
  have fixed : π twin.id = twin.id := translates.known _ rfl
  have kept : ((start.run twins).2.habitat.renamed π).residents.find? twin.id =
      ((start.run twins).2.habitat.residents.find? twin.id).map (Resident.renamed π) := by
    have found := (start.run twins).2.habitat.find?_residents_renamed (π := π) twin.id
    rwa [fixed] at found
  have unlike : ((start.run twins).2.habitat.residents.find? twin.id).map (·.organism.state) ≠
      ((again.run twins).2.habitat.residents.find? twin.id).map (·.organism.state) := by
    decide +kernel
  rw [same, kept, Option.map_map] at unlike
  exact unlike rfl

end Ecosystem

end Vivarium
