import Vivarium.Organism.Growth
import Vivarium.Source.Blueprint.Check
import Vivarium.Source.Blueprint.Normal

/-!
# Blueprints without errors

The check of a blueprint lets a source pass if its findings are warnings only.  Then no
two genes share a name and each category exists, which is what the later steps rely on:
the normal form keeps every gene as it was declared, and the organism gets one gene for
each declaration, of the category that was declared.

Main definitions:

* `Blueprint.errors`: the errors among the findings about a blueprint;
* `Bears`: genes that correspond to declarations, one to one and in order.

Main statements:

* `geneErrors_eq_nil_iff`: what the check of the genes lets pass;
* `mergeGenes_of_nodup`: genes with different names are left alone;
* `bears_bearGenes`: genes grow as they were declared.
-/

namespace Vivarium.Source

/-! ## Findings -/

/-- The errors among the findings about a blueprint, in their order. -/
def Blueprint.errors (b : Blueprint) : List Diagnostic := b.diagnostics.filter Diagnostic.isError

theorem Blueprint.errors_eq_nil_iff {b : Blueprint} :
    b.errors = [] ↔ ∀ d ∈ b.diagnostics, d.isError = false := by
  simp only [errors, List.filter_eq_nil_iff, Bool.not_eq_true]

/-- What is found about genes starts by saying what is wrong. -/
theorem exists_of_mem_geneErrors {seen : List String} {genes : List GeneDeclaration}
    {d : Diagnostic} (found : d ∈ geneErrors seen genes) :
    ∃ start ∈ ["Duplicate gene name '", "Invalid gene category '"], ∃ line text,
      d = Diagnostic.semantic line (start ++ text) := by
  induction genes generalizing seen with
  | nil => cases found
  | cons g rest inductionHypothesis =>
      rw [geneErrors, List.mem_append, List.mem_append] at found
      rcases found with (repeated | unknown) | later
      · rw [duplicateError] at repeated
        split at repeated
        · refine ⟨_, List.mem_cons_self, g.line, g.name ++ "'", ?_⟩
          rw [List.mem_singleton.mp repeated, String.append_assoc]
        · cases repeated
      · rw [categoryError] at unknown
        split at unknown
        · cases unknown
        · simp only [String.append_assoc] at unknown
          exact ⟨_, List.mem_cons_of_mem _ List.mem_cons_self, g.line, _,
            List.mem_singleton.mp unknown⟩
      · exact inductionHypothesis later

theorem isError_of_mem_geneErrors {seen : List String} {genes : List GeneDeclaration}
    {d : Diagnostic} (found : d ∈ geneErrors seen genes) : d.isError = true := by
  obtain ⟨start, -, line, text, rfl⟩ := exists_of_mem_geneErrors found
  rfl

/-- Everything found about genes is an error, so that a blueprint without errors has
nothing wrong with its genes. -/
theorem Blueprint.geneErrors_of_errors {b : Blueprint} (flawless : b.errors = []) :
    geneErrors [] b.genes = [] := by
  rw [List.eq_nil_iff_forall_not_mem]
  intro d found
  have reported : d ∈ b.diagnostics := by
    rw [diagnostics, List.mem_mergeSort]
    simp only [List.mem_append, found, true_or, or_true]
  have passed := errors_eq_nil_iff.mp flawless d reported
  rw [isError_of_mem_geneErrors found] at passed
  cases passed

theorem duplicateError_eq_nil_iff {seen : List String} {g : GeneDeclaration} :
    duplicateError seen g = [] ↔ g.name ∉ seen := by
  simp [duplicateError]

theorem categoryError_eq_nil_iff {g : GeneDeclaration} :
    categoryError g = [] ↔ (Gene.Category.ofName? g.category).isSome = true := by
  unfold categoryError
  split <;>
  · rename_i found
    simp [found]

/-- The check passes genes that have names of their own and categories that exist. -/
theorem geneErrors_eq_nil_iff {seen : List String} {genes : List GeneDeclaration} :
    geneErrors seen genes = [] ↔
      (genes.map (·.name)).Nodup ∧ (∀ g ∈ genes, g.name ∉ seen) ∧
        ∀ g ∈ genes, (Gene.Category.ofName? g.category).isSome = true := by
  induction genes generalizing seen with
  | nil => simp [geneErrors]
  | cons g rest inductionHypothesis =>
      rw [geneErrors, List.append_eq_nil_iff, List.append_eq_nil_iff, inductionHypothesis,
        duplicateError_eq_nil_iff, categoryError_eq_nil_iff, List.map_cons, List.nodup_cons,
        List.forall_mem_cons, List.forall_mem_cons]
      -- no later gene repeats this name, and none repeats a name from before
      have unlike : (∀ h ∈ rest, h.name ∉ g.name :: seen) ↔
          g.name ∉ rest.map (·.name) ∧ ∀ h ∈ rest, h.name ∉ seen := by
        simp only [List.mem_cons, not_or, List.mem_map, not_exists, not_and, forall_and]
      rw [unlike]
      constructor
      · rintro ⟨⟨new, known⟩, distinct, ⟨own, others⟩, categories⟩
        exact ⟨⟨own, distinct⟩, ⟨new, others⟩, known, categories⟩
      · rintro ⟨⟨own, distinct⟩, ⟨new, others⟩, known, categories⟩
        exact ⟨⟨new, known⟩, distinct, ⟨own, others⟩, categories⟩

/-! ## The normal form -/

/-- A gene of a new name is added at the end. -/
theorem mergeGene_of_new {g : GeneDeclaration} {genes : List GeneDeclaration}
    (new : ∀ kept ∈ genes, kept.name ≠ g.name) : mergeGene g genes = genes ++ [g] := by
  induction genes with
  | nil => rfl
  | cons kept rest inductionHypothesis =>
      obtain ⟨unlike, others⟩ := List.forall_mem_cons.mp new
      rw [mergeGene, if_neg unlike, inductionHypothesis others, List.cons_append]

/-- Genes with different names are left alone. -/
theorem mergeGenes_of_nodup {genes : List GeneDeclaration}
    (distinct : (genes.map (·.name)).Nodup) : mergeGenes genes = genes := by
  -- the genes that were kept so far stand in front, and their names are different as well
  suffices behind : ∀ kept : List GeneDeclaration, ((kept ++ genes).map (·.name)).Nodup →
      genes.foldl (fun kept g => mergeGene g kept) kept = kept ++ genes by
    exact behind [] distinct
  clear distinct
  induction genes with
  | nil => exact fun kept _ => (List.append_nil kept).symm
  | cons g rest inductionHypothesis =>
      intro kept distinct
      have new : ∀ other ∈ kept, other.name ≠ g.name := by
        intro other member
        rw [List.map_append, List.map_cons] at distinct
        obtain ⟨-, -, apart⟩ := List.nodup_append.mp distinct
        exact apart _ (List.mem_map_of_mem member) _ List.mem_cons_self
      rw [List.foldl_cons, mergeGene_of_new new, inductionHypothesis]
      · rw [List.append_assoc, List.singleton_append]
      · rw [List.append_assoc, List.singleton_append]
        exact distinct

/-! ## Growth -/

/-- Genes that correspond to declarations, one to one and in order. -/
structure Bears (declared : List GeneDeclaration) (genes : List Gene) : Prop where
  /-- The genes are numbered from one. -/
  ids : genes.map (·.id) = Number.wordsFrom 1 declared.length
  /-- They have the declared names, -/
  names : genes.map (·.name) = declared.map (·.name)
  /-- the declared categories -/
  categories : genes.map (·.category.name) = declared.map (·.category)
  /-- and the declared bodies. -/
  bodies : genes.map (·.body) = declared.map (·.body)

/-- The category of a name has that name. -/
theorem name_of_ofName? {text : String} {c : Gene.Category}
    (found : Gene.Category.ofName? text = some c) : c.name = text :=
  of_decide_eq_true (List.find?_some (p := fun c : Gene.Category => c.name = text) found)

theorem ids_bearGenes (id : Nat) (declared : List GeneDeclaration) :
    (Blueprint.bearGenes (UInt64.ofNat id) declared).map (·.id) =
      Number.wordsFrom id declared.length := by
  induction declared generalizing id with
  | nil => rfl
  | cons g rest inductionHypothesis =>
      rw [List.length_cons, Number.wordsFrom_succ, ← inductionHypothesis (id + 1),
        UInt64.ofNat_add]
      rfl

/-- What does not depend on the number of a gene is the same for all genes of a list. -/
theorem map_bearGenes {α : Type} {trait : Gene → α} {declaredTrait : GeneDeclaration → α}
    {declared : List GeneDeclaration}
    (same : ∀ g ∈ declared, ∀ id, trait (Blueprint.bearGene g id) = declaredTrait g)
    (id : UInt64) :
    (Blueprint.bearGenes id declared).map trait = declared.map declaredTrait := by
  induction declared generalizing id with
  | nil => rfl
  | cons g rest inductionHypothesis =>
      obtain ⟨here, others⟩ := List.forall_mem_cons.mp same
      rw [Blueprint.bearGenes, List.map_cons, List.map_cons, here, inductionHypothesis others]

/-- Genes of known categories grow as they were declared. -/
theorem bears_bearGenes {declared : List GeneDeclaration}
    (known : ∀ g ∈ declared, (Gene.Category.ofName? g.category).isSome = true) :
    Bears declared (Blueprint.bearGenes 1 declared) where
  ids := ids_bearGenes 1 declared
  names := map_bearGenes (fun _ _ _ => rfl) 1
  categories := by
    refine map_bearGenes ?_ 1
    intro g member id
    obtain ⟨c, found⟩ := Option.isSome_iff_exists.mp (known g member)
    rw [Blueprint.bearGene, found]
    exact name_of_ofName? found
  bodies := map_bearGenes (fun _ _ _ => rfl) 1

end Vivarium.Source
