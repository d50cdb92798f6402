import Mathlib.Data.List.Perm.Subperm
import Mathlib.Order.Interval.Finset.Nat
import Vivarium.Proofs.Organism.Constancy
import Vivarium.Proofs.Organism.Crossover
import Vivarium.Proofs.Source.Acceptance

/-!
# Numbers of genes

The genes of an organism are told apart by their numbers.  Two things give numbers out: a gene
is duplicated under the number next to the greatest, and the genes of a crossed child are numbered
anew from one.  Nothing else touches them, so what can be said of the numbers alone is kept by
everything that happens to an organism if it is kept by these two.

A number is a word, and behind the last one they start over.  Ten genes are not duplicated any
more, so that it takes little room for this not to happen.

Main definitions:

* `Organism.geneIds`: the numbers of the genes, in order;
* `Gene.Grows`: numbers before and after a mutation;
* `Gene.IsKept`: what a mutation and a crossover do not change about numbers;
* `Gene.AreDistinct`, `Gene.AreWithin`: numbers with room for copies, and with a bound.

Main statements:

* `grows_of_yields_apply`, `geneIds_of_yields_crossover`: a mutation and a crossover;
* `keptInCycles_geneIds`: a cycle in a habitat changes no number;
* `isKept_areDistinct`, `isKept_length_le`, `isKept_areWithin`: numbers do not repeat, are not too
  many, and do not become too great.
-/

namespace Vivarium

open Draw Number

/-- The numbers of the genes, in order. -/
def Organism.geneIds (o : Organism) : List UInt64 := o.genes.map (·.id)

theorem Organism.length_geneIds (o : Organism) : o.geneIds.length = o.genes.length :=
  List.length_map ..

/-- The genes of an organism that grows from a blueprint are numbered from one. -/
theorem Source.Blueprint.geneIds_grow (b : Source.Blueprint) (now : Instant) :
    (b.grow now).geneIds = wordsFrom 1 b.genes.length :=
  ids_bearGenes 1 b.genes

/-! ## Mutation -/

/-- The numbers of the genes after a mutation.  As long as there are not too many, one may be
added, which is next to the greatest. -/
def Gene.Grows (ids later : List UInt64) : Prop :=
  later = ids ∨ ∃ greatest ∈ ids, (∀ id ∈ ids, id ≤ greatest) ∧
    ids.length < Mutation.geneLimit ∧ later = ids ++ [greatest + 1]

theorem Gene.Grows.length_le {ids later : List UInt64} (grows : Gene.Grows ids later) :
    ids.length ≤ later.length := by
  rcases grows with rfl | ⟨greatest, -, -, -, rfl⟩
  · exact Nat.le_refl _
  · rw [List.length_append]
    exact Nat.le_add_right _ _

namespace Mutation

/-- Of all operators one adds a gene, and the others leave the numbers of the genes alone. -/
theorem grows_of_yields_apply {o mutated : Organism} {kind : Kind} {outcome : Outcome}
    (possible : (apply o kind).Yields (mutated, outcome)) :
    Gene.Grows o.geneIds mutated.geneIds := by
  have changes := changesGenes_of_yields_apply possible
  unfold Organism.geneIds
  generalize mutated.genes = later at changes
  cases changes with
  | unchanged => exact Or.inl rfl
  | perturbed drawn =>
      have same := congrArg (·.map Gene.Design.id) (oneMoved_of_yields_perturbGenes drawn).design
      simp only [List.map_map] at same
      exact Or.inl same
  | @duplicated gene active room =>
      obtain ⟨first, among, same⟩ := Organism.exists_greatestGeneId
        (List.ne_nil_of_mem (List.mem_filter.mp active).1)
      refine Or.inr ⟨o.greatestGeneId, ?_, ?_, ?_, List.map_append⟩
      · exact same ▸ List.mem_map_of_mem among
      · exact List.forall_mem_map.mpr fun _ member => Organism.id_le_greatestGeneId member
      · rwa [List.length_map]

end Mutation

/-! ## Crossover -/

/-- A crossed child has as many genes as its first parent, numbered from one. -/
theorem geneIds_of_yields_crossover {first second child : Organism} {eliteBias : Float}
    (possible : (crossover first second eliteBias).Yields child) :
    child.geneIds = wordsFrom 1 first.geneIds.length := by
  obtain ⟨picks, crossing⟩ := (checks_crossover first second eliteBias).of_yields possible
  rw [Organism.length_geneIds]
  exact crossing.ids

/-! ## Cycles -/

theorem Organism.geneIds_of_design {o x : Organism} (same : o.design = x.design) :
    o.geneIds = x.geneIds := by
  have genes := congrArg (fun design : Organism.Design => design.genes.map (·.id)) same
  simp only [Organism.design, List.map_map] at genes
  exact genes

theorem Organism.keptInCycles_geneIds (config : HabitatConfig) (now : Instant)
    (ids : List UInt64) : KeptInCycles config now fun o => o.geneIds = ids where
  evolved before possible := (geneIds_of_design (design_of_yields_evolve possible)).trans before
  fed _ _ before := before
  recovered _ _ before := (geneIds_of_design (design_recover _ config)).trans before
  regenerated before := before

/-! ## What is kept -/

/-- What holds of the numbers still holds after a mutation, and when they are given anew. -/
structure Gene.IsKept (Property : List UInt64 → Prop) : Prop where
  grown : ∀ {ids later}, Property ids → Gene.Grows ids later → Property later
  numbered : ∀ {ids}, Property ids → Property (wordsFrom 1 ids.length)

namespace Gene

/-- Genes are duplicated up to the limit, and not further. -/
theorem isKept_length_le {most : Nat} (room : Mutation.geneLimit ≤ most) :
    IsKept fun ids => ids.length ≤ most where
  grown := by
    rintro ids _ few (rfl | ⟨greatest, -, -, free, rfl⟩)
    · exact few
    · rw [List.length_append, List.length_singleton]
      exact Nat.le_trans free room
  numbered few := by rwa [length_wordsFrom]

/-- The numbers differ, and behind each of them there is room for the copies that may still be
made. -/
structure AreDistinct (ids : List UInt64) : Prop where
  nodup : ids.Nodup
  room : ∀ id ∈ ids, HasRoom id (Mutation.geneLimit - ids.length)

/-- There are no more different numbers than words. -/
theorem length_le_of_nodup {ids : List UInt64} (distinct : ids.Nodup) :
    ids.length ≤ wordBound := by
  have apart : (ids.map UInt64.toNat).Nodup := distinct.map fun _ _ => UInt64.toNat_inj.mp
  have below : ids.map UInt64.toNat ⊆ List.range wordBound := by
    intro n member
    obtain ⟨id, -, rfl⟩ := List.mem_map.mp member
    exact List.mem_range.mpr id.toNat_lt
  have le := (List.subperm_of_subset apart below).length_le
  rwa [List.length_map, List.length_range] at le

/-- Words one after the other differ, unless they start over and go past the first one. -/
theorem nodup_wordsFrom {first count : Nat} (few : count ≤ wordBound) :
    (wordsFrom first count).Nodup := by
  have inside : ∀ n ∈ List.range' first count,
      n ∈ (Finset.Ico first (first + wordBound) : Set Nat) := by
    intro n member
    obtain ⟨low, high⟩ := List.mem_range'_1.mp member
    exact Finset.mem_coe.mpr (Finset.mem_Ico.mpr ⟨low, by omega⟩)
  refine List.Nodup.map_on ?_ List.nodup_range'
  intro m mAmong n nAmong same
  have rest := congrArg UInt64.toNat same
  rw [toNat_ofNat, toNat_ofNat] at rest
  exact Nat.mod_injOn_Ico first wordBound (inside m mAmong) (inside n nAmong) rest

/-- Genes that are numbered from one have room for copies. -/
theorem areDistinct_wordsFrom {count : Nat} (few : count ≤ wordBound) :
    AreDistinct (wordsFrom 1 count) := by
  refine ⟨nodup_wordsFrom few, fun id member => ?_⟩
  have below := toNat_lt_of_mem_wordsFrom member
  have last := id.toNat_lt
  rw [length_wordsFrom, HasRoom, Mutation.geneLimit]
  unfold wordBound
  omega

/-- The number of a copy is next to the greatest, and there is one copy less to come. -/
theorem AreDistinct.toNat_next {ids : List UInt64} (distinct : AreDistinct ids)
    (free : ids.length < Mutation.geneLimit) {greatest : UInt64} (member : greatest ∈ ids) :
    (greatest + 1).toNat = greatest.toNat + 1 :=
  toNat_succ_of_hasRoom ((distinct.room greatest member).mono (Nat.le_sub_of_add_le' free))

/-- A number above all others is none of them. -/
theorem isKept_areDistinct : IsKept AreDistinct where
  grown := by
    rintro ids _ distinct (rfl | ⟨greatest, member, most, free, rfl⟩)
    · exact distinct
    have next := distinct.toNat_next free member
    constructor
    · refine List.nodup_append.mpr ⟨distinct.nodup, List.pairwise_singleton _ _, ?_⟩
      rintro id among _ new rfl
      have above := UInt64.le_iff_toNat_le.mp (most id among)
      rw [List.mem_singleton.mp new] at above
      omega
    · rw [List.length_append, List.length_singleton]
      refine List.forall_mem_append.mpr ⟨fun id among => ?_, List.forall_mem_singleton.mpr ?_⟩
      · exact (distinct.room id among).mono (by omega)
      · have room := distinct.room greatest member
        unfold HasRoom at room ⊢
        omega
  numbered distinct := areDistinct_wordsFrom (length_le_of_nodup distinct.nodup)

/-- The numbers do not exceed a bound, and neither do those that may still be given to copies. -/
structure AreWithin (bound : Nat) (ids : List UInt64) : Prop where
  distinct : AreDistinct ids
  count : ids.length ≤ bound
  spare : ∀ id ∈ ids, id.toNat + (Mutation.geneLimit - ids.length) ≤ bound

/-- A copy is one number further, and there is one copy less to come. -/
theorem isKept_areWithin {bound : Nat} (room : Mutation.geneLimit ≤ bound) :
    IsKept (AreWithin bound) where
  grown := by
    rintro ids _ within grows
    have distinct := isKept_areDistinct.grown within.distinct grows
    rcases grows with rfl | ⟨greatest, member, most, free, rfl⟩
    · exact within
    have next := within.distinct.toNat_next free member
    have count : (ids ++ [greatest + 1]).length = ids.length + 1 := List.length_append
    refine ⟨distinct, count ▸ Nat.le_trans free room, ?_⟩
    rw [count]
    refine List.forall_mem_append.mpr ⟨fun id among => ?_, List.forall_mem_singleton.mpr ?_⟩
    · have spare := within.spare id among
      omega
    · have spare := within.spare greatest member
      omega
  numbered := by
    intro ids within
    have count := within.count
    refine ⟨isKept_areDistinct.numbered within.distinct, by rwa [length_wordsFrom], ?_⟩
    intro id member
    have below := toNat_lt_of_mem_wordsFrom member
    rw [length_wordsFrom]
    omega

end Gene

end Vivarium
