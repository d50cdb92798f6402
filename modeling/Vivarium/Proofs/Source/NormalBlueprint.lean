import Vivarium.Proofs.Listing
import Vivarium.Proofs.Source.Acceptance
import Vivarium.Proofs.Source.NormalText

/-!
# Normal blueprints

The genes of a blueprint are gone through once, and each is compared with the one that was
kept for its name so far.  What is kept is the first of the longest genes of its name among
those that were gone through, and so among all genes in the end.  Together with the form of
the workflow text this describes the normal form of a blueprint completely, and explains
that a normal blueprint is its own normal form.

Main definitions:

* `IsFirstLongest`: a gene that no gene of its name surpasses, nor equals before it;
* `IsNormalFormOf`: the normal form of a blueprint, described without the passes.

Main statements:

* `map_name_mergeGenes`, `isFirstLongest_of_mem_mergeGenes`: the genes that are kept;
* `Blueprint.normal_isNormal`: all that is promised of the normal form.
-/

namespace Vivarium.Source

/-! ## One gene more -/

variable {genes : List GeneDeclaration} {g : GeneDeclaration}

theorem map_name_mergeGene :
    (mergeGene g genes).map (·.name) =
      if g.name ∈ genes.map (·.name) then genes.map (·.name)
      else genes.map (·.name) ++ [g.name] := by
  induction genes with
  | nil => rfl
  | cons kept rest inductionHypothesis =>
      rw [mergeGene]
      by_cases same : kept.name = g.name
      · rw [if_pos same, List.map_cons, List.map_cons, same, if_pos List.mem_cons_self]
        split
        · rfl
        · rw [same]
      · rw [if_neg same, List.map_cons, inductionHypothesis, List.map_cons]
        simp only [List.mem_cons, Ne.symm same, false_or]
        split <;> rfl

/-- What is kept when a gene is added: a gene of another name, the new gene, or the one
that it would have had to surpass. -/
theorem mem_mergeGene (distinct : (genes.map (·.name)).Nodup) {k : GeneDeclaration}
    (member : k ∈ mergeGene g genes) :
    (k ∈ genes ∧ k.name ≠ g.name) ∨
      (k = g ∧ ∀ kept ∈ genes, kept.name = g.name → kept.body.length < g.body.length) ∨
      (k ∈ genes ∧ k.name = g.name ∧ g.body.length ≤ k.body.length) := by
  induction genes with
  | nil =>
      rw [mergeGene, List.mem_singleton] at member
      exact .inr (.inl ⟨member, fun _ nowhere => absurd nowhere List.not_mem_nil⟩)
  | cons kept rest inductionHypothesis =>
      rw [List.map_cons, List.nodup_cons] at distinct
      have unlike : ∀ h ∈ rest, h.name ≠ kept.name := fun h there same =>
        distinct.1 (same ▸ List.mem_map_of_mem there)
      rw [mergeGene] at member
      by_cases same : kept.name = g.name
      · rw [if_pos same, List.mem_cons] at member
        rcases member with rfl | later
        · by_cases longer : kept.body.length < g.body.length
          · refine .inr (.inl ⟨if_pos longer, fun h there sameName => ?_⟩)
            rcases List.mem_cons.mp there with rfl | behind
            · exact longer
            · exact absurd (sameName.trans same.symm) (unlike h behind)
          · rw [if_neg longer]
            exact .inr (.inr ⟨List.mem_cons_self, same, Nat.le_of_not_lt longer⟩)
        · exact .inl ⟨List.mem_cons_of_mem _ later, same ▸ unlike k later⟩
      · rw [if_neg same, List.mem_cons] at member
        rcases member with rfl | later
        · exact .inl ⟨List.mem_cons_self, same⟩
        · rcases inductionHypothesis distinct.2 later with
            ⟨there, other⟩ | ⟨new, surpassed⟩ | ⟨there, sameName, enough⟩
          · exact .inl ⟨List.mem_cons_of_mem _ there, other⟩
          · exact .inr (.inl ⟨new, List.forall_mem_cons.mpr
              ⟨fun sameName => absurd sameName same, surpassed⟩⟩)
          · exact .inr (.inr ⟨List.mem_cons_of_mem _ there, sameName, enough⟩)

/-! ## All genes -/

theorem mergeGenes_concat : mergeGenes (genes ++ [g]) = mergeGene g (mergeGenes genes) := by
  rw [mergeGenes, List.foldl_concat, mergeGenes]

/-- Each name is kept once, in the order of first occurrence. -/
theorem map_name_mergeGenes (genes : List GeneDeclaration) :
    (mergeGenes genes).map (·.name) = (genes.map (·.name)).eraseDups := by
  induction genes using List.reverseRecOn with
  | nil => rfl
  | append_singleton front g inductionHypothesis =>
      rw [mergeGenes_concat, map_name_mergeGene, inductionHypothesis, List.map_append,
        List.map_singleton, eraseDups_concat]
      simp only [List.mem_eraseDups]

theorem nodup_mergeGenes (genes : List GeneDeclaration) :
    ((mergeGenes genes).map (·.name)).Nodup := by
  rw [map_name_mergeGenes]
  exact nodup_eraseDups _

/-- A gene that stands among others, longer than all of its name before it and no shorter
than those after it. -/
def IsFirstLongest (kept : GeneDeclaration) (genes : List GeneDeclaration) : Prop :=
  ∃ before after, genes = before ++ kept :: after ∧
    (∀ h ∈ before, h.name = kept.name → h.body.length < kept.body.length) ∧
    ∀ h ∈ after, h.name = kept.name → h.body.length ≤ kept.body.length

namespace IsFirstLongest

variable {kept : GeneDeclaration}

theorem length_le (first : IsFirstLongest kept genes) :
    ∀ h ∈ genes, h.name = kept.name → h.body.length ≤ kept.body.length := by
  obtain ⟨before, after, rfl, shorter, noLonger⟩ := first
  intro h member same
  rcases List.mem_append.mp member with front | behind
  · exact (shorter h front same).le
  · rcases List.mem_cons.mp behind with rfl | later
    · exact le_rfl
    · exact noLonger h later same

/-- A further gene changes nothing if it is no longer, or has another name. -/
theorem concat (first : IsFirstLongest kept genes)
    (noLonger : g.name = kept.name → g.body.length ≤ kept.body.length) :
    IsFirstLongest kept (genes ++ [g]) := by
  obtain ⟨before, after, rfl, shorter, others⟩ := first
  refine ⟨before, after ++ [g], by rw [List.append_assoc, List.cons_append], shorter, ?_⟩
  intro h member
  rcases List.mem_append.mp member with there | new
  · exact others h there
  · rw [List.mem_singleton.mp new]
    exact noLonger

end IsFirstLongest

/-- What is kept for a name is the first of its longest genes. -/
theorem isFirstLongest_of_mem_mergeGenes {kept : GeneDeclaration} :
    kept ∈ mergeGenes genes → IsFirstLongest kept genes := by
  induction genes using List.reverseRecOn generalizing kept with
  | nil => exact fun nowhere => absurd nowhere List.not_mem_nil
  | append_singleton front g inductionHypothesis =>
      rw [mergeGenes_concat]
      intro member
      rcases mem_mergeGene (nodup_mergeGenes front) member with
        ⟨there, other⟩ | ⟨rfl, surpassed⟩ | ⟨there, -, enough⟩
      · exact (inductionHypothesis there).concat fun same => absurd same.symm other
      · refine ⟨front, [], rfl, ?_, fun _ nowhere => absurd nowhere List.not_mem_nil⟩
        -- the gene that was kept for this name so far is no shorter than the others of it
        intro h before same
        have known : h.name ∈ (mergeGenes front).map (·.name) := by
          rw [map_name_mergeGenes, List.mem_eraseDups]
          exact List.mem_map_of_mem before
        obtain ⟨old, there, sameName⟩ := List.mem_map.mp known
        exact ((inductionHypothesis there).length_le h before sameName.symm).trans_lt
          (surpassed old there (sameName.trans same))
      · exact (inductionHypothesis there).concat fun _ => enough

/-! ## The normal form of a blueprint -/

/-- What is promised of the normal form of a blueprint. -/
structure IsNormalFormOf (normal b : Blueprint) : Prop where
  /-- Each gene name occurs once, in the order of first occurrence, -/
  names : normal.genes.map (·.name) = (b.genes.map (·.name)).eraseDups
  distinct : (normal.genes.map (·.name)).Nodup
  /-- with the first of the longest genes of this name. -/
  genes : ∀ kept ∈ normal.genes, IsFirstLongest kept b.genes
  /-- Name, line, state and evolution are those of the blueprint. -/
  name : normal.name = b.name
  line : normal.line = b.line
  state : normal.state = b.state
  evolution : normal.evolution = b.evolution
  /-- The workflow is a normal text -/
  workflow : IsNormalText normal.workflow.toList
  /-- with the same characters except for blanks and semicolons. -/
  marks : marks normal.workflow.toList = marks b.workflow.toList

theorem normalWorkflow_eq_self {workflow : String} (normal : IsNormalText workflow.toList) :
    normalWorkflow workflow = workflow := by
  rw [normalWorkflow_eq, normalText_eq_self normal, String.ofList_toList]

theorem toList_normalWorkflow (workflow : String) :
    (normalWorkflow workflow).toList = normalText workflow.toList := by
  rw [normalWorkflow_eq, String.toList_ofList]

theorem Blueprint.isNormalFormOf_normal (b : Blueprint) : IsNormalFormOf b.normal b where
  names := map_name_mergeGenes b.genes
  distinct := nodup_mergeGenes b.genes
  genes _ member := isFirstLongest_of_mem_mergeGenes member
  name := rfl
  line := rfl
  state := rfl
  evolution := rfl
  workflow := by
    rw [Blueprint.normal, toList_normalWorkflow]
    exact isNormalText_normalText _
  marks := by
    rw [Blueprint.normal, toList_normalWorkflow]
    exact marks_normalText _

/-- A blueprint whose gene names are different and whose workflow is normal is its own normal
form. -/
theorem Blueprint.normal_eq_self {b : Blueprint} (distinct : (b.genes.map (·.name)).Nodup)
    (workflow : IsNormalText b.workflow.toList) : b.normal = b := by
  rw [Blueprint.normal, mergeGenes_of_nodup distinct, normalWorkflow_eq_self workflow]

/-- The normal form of a blueprint has one gene for each name and a normal workflow, leaves
everything else as it was, and is reached at once. -/
theorem Blueprint.normal_isNormal (b : Blueprint) :
    IsNormalFormOf b.normal b ∧
      (IsNormalText b.workflow.toList → b.normal.workflow = b.workflow) ∧
      b.normal.normal = b.normal :=
  have normal := b.isNormalFormOf_normal
  ⟨normal, normalWorkflow_eq_self, normal_eq_self normal.distinct normal.workflow⟩

/-- A blueprint with two genes of one name, and with a workflow in normal form. -/
def shrewlet : Blueprint where
  name := "Shrewlet"
  line := 1
  state := Directory.empty
  genes := [⟨"snout", "sensor", "smell();", 2⟩, ⟨"paws", "processor", "dig();", 3⟩,
    ⟨"snout", "sensor", "smell(far);", 4⟩]
  workflow := "while true { smell(); dig(); }"
  evolution := Directory.empty

theorem Blueprint.normal_isNormal_shrewlet :
    IsNormalText shrewlet.workflow.toList ∧ shrewlet.normal.workflow = shrewlet.workflow :=
  ⟨by decide +kernel, shrewlet.normal_isNormal.2.1 (by decide +kernel)⟩

end Vivarium.Source
