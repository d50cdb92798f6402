import Vivarium.Proofs.Ecosystem.Heredity
import Vivarium.Proofs.Ecosystem.Transfer

/-!
# Genomes in an ecosystem

Genes are told apart by their numbers.  Duplication gives a new one out, crossover may pick a
gene more than once and numbers what it has picked anew, and organisms are cloned, moved and
bred again over generations.  Still the genes of every organism have different numbers, as long
as those of all who come do and leave room for copies.

Genes never get lost when organisms breed, and do not pile up either: only duplication adds a
gene, and not to ten of them.  The numbers themselves stay within reach of those that came, since
a copy takes the number next to the greatest, and nine copies make ten genes of one.

Main statements:

* `fill_length_genes`, `select_length_genes`: clones and children have as many genes as the
  parents they take after, or more;
* `Ecosystem.genes_distinct_and_bounded`: the genes of all organisms after a course.
-/

namespace Vivarium

open Number

/-! ## Breeding -/

/-- Clones stand behind the others, and each has at least the genes of its seed. -/
theorem fill_length_genes (n : Nursery) (p : Population) (seeds : List Organism) (size : Nat)
    (now : Instant) (supply : IdSupply) :
    ∃ clones, (n.fill p seeds size now supply).1.organisms = p.organisms ++ clones ∧
      ∀ clone ∈ clones, ∃ seed ∈ seeds, Organism.IsCloneOf now seed clone ∧
        seed.genes.length ≤ clone.genes.length := by
  obtain ⟨clones, appended, kinship⟩ := fill_appends n p seeds size now supply
  refine ⟨clones, appended, fun clone member => ?_⟩
  obtain ⟨seed, among, kin⟩ := kinship clone member
  exact ⟨seed, among, kin, kin.length_genes_le⟩

/-- Children stand behind the elites, and each has at least the genes of its first parent. -/
theorem select_length_genes (config : NurseryConfig) (strategy : Strategy) (landscape : Landscape)
    (now : Instant) (p : Population) (rng : Rng) (supply : IdSupply) :
    ∃ elites children,
      (select config strategy landscape now p rng supply).population.organisms =
        elites ++ children ∧
      (∀ elite ∈ elites, ∃ old ∈ p.organisms, elite = old ∨ elite = old.scored landscape) ∧
      ∀ child ∈ children, ∃ mother ∈ p.organisms, ∃ father ∈ p.organisms,
        Organism.IsChildOf config.geneEliteBias now (mother.scored landscape)
          (father.scored landscape) child ∧
        mother.genes.length ≤ child.genes.length := by
  by_cases empty : p.organisms = []
  · rw [select_of_nil empty]
    exact ⟨p.organisms, [], (List.append_nil _).symm,
      fun elite member => ⟨elite, member, Or.inl rfl⟩, List.forall_mem_nil _⟩
  · obtain ⟨-, children, selection⟩ :=
      select_isSelection config strategy landscape now rng supply empty
    refine ⟨_, children, selection.organisms, ?_, ?_⟩
    · intro elite member
      obtain ⟨old, before, same⟩ := exists_of_mem_rank (List.mem_of_mem_take member)
      exact ⟨old, before, Or.inr same⟩
    · intro child member
      obtain ⟨_, first, _, second, kinship⟩ := selection.parents child member
      obtain ⟨mother, motherBefore, rfl⟩ := exists_of_mem_rank (List.mem_of_mem_take first)
      obtain ⟨father, fatherBefore, rfl⟩ := exists_of_mem_rank (List.mem_of_mem_take second)
      have genes : (mother.scored landscape).genes.length ≤ child.genes.length :=
        kinship.length_genes_le
      exact ⟨mother, motherBefore, father, fatherBefore, kinship, genes⟩

namespace Ecosystem

variable {e : Ecosystem}

/-! ## Courses -/

/-- **Genes are distinct, and not too many.**  Organisms that grow from blueprints have genes of
different numbers.  After a course in which no organism was modified from outside, nobody has more
genes than ten or than anyone had who came; and if all who came had genes of different numbers with
room for copies behind each, so have all who are there, and a number is at most nine above those
that came, unless it counts genes.  Clones and children have the genes of whom they take after, or
more. -/
theorem genes_distinct_and_bounded {c : Config} {habitatSeed nurserySeed : Nat}
    {supply : IdSupply} {exchanges : List Exchange}
    (course : Course (founded c habitatSeed nurserySeed supply) exchanges e)
    (faithful : ∀ x ∈ exchanges, ¬x.request.Modifies) :
    (∀ (b : Source.Blueprint) (now : Instant), b.genes.length ≤ wordBound →
      Gene.AreDistinct ((b.grow now).genes.map (·.id))) ∧
    ((∀ x ∈ exchanges, ∀ o ∈ x.entering, Gene.AreDistinct (o.genes.map (·.id))) →
      (∀ o, e.Houses o → Gene.AreDistinct (o.genes.map (·.id))) ∧
      ∀ most highest, (∀ x ∈ exchanges, ∀ o ∈ x.entering, o.genes.length ≤ most) →
        (∀ x ∈ exchanges, ∀ o ∈ x.entering, ∀ gene ∈ o.genes, gene.id.toNat ≤ highest) →
        ∀ o, e.Houses o → ∀ gene ∈ o.genes, gene.id.toNat ≤ max (highest + 9) (max 10 most)) ∧
    (∀ most, (∀ x ∈ exchanges, ∀ o ∈ x.entering, o.genes.length ≤ most) →
      ∀ o, e.Houses o → o.genes.length ≤ max 10 most) ∧
    (∀ (n : Nursery) (p : Population) (seeds : List Organism) (size : Nat) (now : Instant)
        (supply : IdSupply),
      ∃ clones, (n.fill p seeds size now supply).1.organisms = p.organisms ++ clones ∧
        ∀ clone ∈ clones, ∃ seed ∈ seeds, Organism.IsCloneOf now seed clone ∧
          seed.genes.length ≤ clone.genes.length) ∧
    ∀ (config : NurseryConfig) (strategy : Strategy) (landscape : Landscape) (now : Instant)
        (p : Population) (rng : Rng) (supply : IdSupply),
      ∃ elites children,
        (select config strategy landscape now p rng supply).population.organisms =
          elites ++ children ∧
        (∀ elite ∈ elites, ∃ old ∈ p.organisms, elite = old ∨ elite = old.scored landscape) ∧
        ∀ child ∈ children, ∃ mother ∈ p.organisms, ∃ father ∈ p.organisms,
          Organism.IsChildOf config.geneEliteBias now (mother.scored landscape)
            (father.scored landscape) child ∧
          mother.genes.length ≤ child.genes.length := by
  have spread : ∀ {Property : List UInt64 → Prop}, Gene.IsKept Property →
      (∀ x ∈ exchanges, ∀ o ∈ x.entering, Property o.geneIds) →
      ∀ o, e.Houses o → Property o.geneIds := by
    intro Property kept promised o housed
    have common : e.All fun o => Property o.geneIds :=
      course.hereditary (Organism.isHereditary_geneIds kept) (All.founded _ _ _ _)
        (fun x member => Request.leads_of_not_modifies (faithful x member)) promised
    exact common.of_houses housed
  have counted : ∀ o : Organism, o.geneIds.length = o.genes.length := Organism.length_geneIds
  refine ⟨?_, fun distinct => ⟨spread Gene.isKept_areDistinct distinct, ?_⟩, ?_,
    fill_length_genes, select_length_genes⟩
  · intro b now few
    have numbered := b.geneIds_grow now
    rw [Organism.geneIds] at numbered
    rw [numbered]
    exact Gene.areDistinct_wordsFrom few
  · intro most highest few low o housed gene member
    have room : Mutation.geneLimit ≤ max (highest + 9) (max 10 most) :=
      Nat.le_trans (Nat.le_max_left 10 most) (Nat.le_max_right _ _)
    have within := spread (Gene.isKept_areWithin room) ?_ o housed
    · have spare := within.spare gene.id (List.mem_map_of_mem member)
      omega
    · intro x member o came
      have count := few x member o came
      refine ⟨distinct x member o came, by rw [counted]; omega,
        List.forall_mem_map.mpr fun gene among => ?_⟩
      have number := low x member o came gene among
      have positive := List.length_pos_of_mem among
      rw [counted, Mutation.geneLimit]
      omega
  · intro most few o housed
    rw [← counted]
    refine spread (Gene.isKept_length_le (Nat.le_max_left 10 most)) ?_ o housed
    intro x member o came
    rw [counted]
    exact Nat.le_trans (few x member o came) (Nat.le_max_right 10 most)

/-- An organism with two genes, of which one could be duplicated. -/
def axolotl : Organism :=
  { newt with
    genes := [⟨7, "gill", .sensor, "", true, 0.1⟩, ⟨3, "limb", .actuator, "", false, 0.1⟩] }

/-- The axolotl is registered in a new ecosystem, and a cycle goes by. -/
theorem genes_distinct_and_bounded_axolotl :
    let e := (wasteland.registered axolotl).2
    let later := { e with habitat := (e.habitat.tick ⟨0, 0⟩).2 }
    ∀ o, later.Houses o → (o.genes.map (·.id)).Nodup ∧ o.genes.length ≤ 10 ∧
      ∀ gene ∈ o.genes, gene.id.toNat ≤ 16 := by
  intro e later o housed
  let registering := Exchange.granted ⟨0, 0⟩ (.register axolotl) (wasteland.registered axolotl).1
  let ticking := Exchange.granted ⟨0, 0⟩ .tick (e.habitat.tick ⟨0, 0⟩).1
  have registered : Course wasteland [registering] e :=
    Course.start.step (serves_of_effect (Effect.register axolotl rfl))
  have course : Course wasteland [registering, ticking] later :=
    registered.step (serves_of_effect Effect.tick)
  have faithful : ∀ x ∈ [registering, ticking], ¬x.request.Modifies := by
    intro x member
    rcases List.mem_pair.mp member with rfl | rfl <;> exact not_false
  have alone : ∀ x ∈ [registering, ticking], ∀ o ∈ x.entering, o = axolotl := by
    intro x member o came
    rcases List.mem_pair.mp member with rfl | rfl
    · exact List.mem_singleton.mp came
    · cases came
  have distinct : ∀ x ∈ [registering, ticking], ∀ o ∈ x.entering,
      Gene.AreDistinct (o.genes.map (·.id)) := by
    intro x member o came
    rw [alone x member o came]
    refine ⟨by decide, List.forall_mem_cons.mpr ⟨by decide, ?_⟩⟩
    exact List.forall_mem_singleton.mpr (by decide)
  have few : ∀ x ∈ [registering, ticking], ∀ o ∈ x.entering, o.genes.length ≤ 2 := by
    intro x member o came
    rw [alone x member o came]
    decide
  have low : ∀ x ∈ [registering, ticking], ∀ o ∈ x.entering, ∀ gene ∈ o.genes,
      gene.id.toNat ≤ 7 := by
    intro x member o came
    rw [alone x member o came]
    decide
  obtain ⟨-, numbers, bounded, -⟩ := genes_distinct_and_bounded course faithful
  obtain ⟨apart, within⟩ := numbers distinct
  exact ⟨(apart o housed).nodup, bounded 2 few o housed, within 2 7 few low o housed⟩

/-! A salamander whose genes have the first number and the last but one is cloned in a pool, and
its clone in a lake, and both times a gene is copied. -/

/-- The salamander before it comes to the pool. -/
def salamander : Organism :=
  { newt with
    genes :=
      [⟨0, "gill", .sensor, "", true, 0.1⟩,
        ⟨0xfffffffffffffffe, "limb", .actuator, "", true, 0.1⟩] }

/-- A population of two, for a founder and its clone. -/
def pair : Strategy := { Strategy.balanced with name := "pair", populationSize := 2 }

/-- The clone in the lake has two genes of number zero. -/
theorem not_distinct_salamander :
    let start := founded Config.standard 0 42 IdSupply.numbered
    let paired := start.having ⟨0, 0⟩ (.registerStrategy pair)
    let pooled := paired.having ⟨0, 0⟩ (.createPopulation "pool" [salamander] "pair")
    let ashore := pooled.having ⟨0, 0⟩ (.release "pool" [⟨0⟩])
    let last := ashore.having ⟨0, 0⟩ (.harvest [⟨0⟩] "lake" "pair")
    (∃ exchanges, Course start exchanges last ∧
      ∀ x ∈ exchanges, ¬x.request.Modifies ∧ ∀ o ∈ x.entering,
        (o.genes.map (·.id)).Nodup ∧ ∀ gene ∈ o.genes, gene.id ≠ 0xffffffffffffffff) ∧
    ∃ o, last.Houses o ∧ ¬(o.genes.map (·.id)).Nodup := by
  intro start paired pooled ashore last
  have course := (((Course.start.step (start.serves_asked ⟨0, 0⟩ (.registerStrategy pair))).step
    (paired.serves_asked ⟨0, 0⟩ (.createPopulation "pool" [salamander] "pair"))).step
    (pooled.serves_asked ⟨0, 0⟩ (.release "pool" [⟨0⟩]))).step
    (ashore.serves_asked ⟨0, 0⟩ (.harvest [⟨0⟩] "lake" "pair"))
  refine ⟨⟨_, course, ?_⟩, ?_⟩
  · have apart : ∀ o ∈ [salamander], (o.genes.map (·.id)).Nodup ∧
        ∀ gene ∈ o.genes, gene.id ≠ 0xffffffffffffffff := by decide
    intro x member
    simp only [List.nil_append, List.cons_append, List.mem_cons, List.not_mem_nil,
      or_false] at member
    rcases member with rfl | rfl | rfl | rfl
    · exact ⟨not_false, fun o came => nomatch Exchange.mem_entering came⟩
    · exact ⟨not_false, fun o came => apart o (Exchange.mem_entering came)⟩
    · exact ⟨not_false, fun o came => nomatch Exchange.mem_entering came⟩
    · exact ⟨not_false, fun o came => nomatch Exchange.mem_entering came⟩
  · have twice : last.nursery.populations.values.any (fun p => p.organisms.any fun o =>
        !decide (o.genes.map (·.id)).Nodup) = true := by decide +kernel
    obtain ⟨p, held, found⟩ := List.any_eq_true.mp twice
    obtain ⟨o, member, repeated⟩ := List.any_eq_true.mp found
    exact ⟨o, Or.inr ⟨p, held, member⟩, by simpa using repeated⟩

end Ecosystem

end Vivarium
