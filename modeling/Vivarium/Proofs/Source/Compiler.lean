import Vivarium.Proofs.Source.Acceptance
import Vivarium.Proofs.Source.Sections
import Vivarium.Source.Compiler

/-!
# The compiler and its phases

Compiling a source ends in one of three ways: its outline is flawed, its blueprint has
errors, or an organism grows.  Each of them is told by the phases alone, and the result
says the same in all its parts.  An organism that grows has the declared genes, since a
source that comes so far names each of its genes legally and differently.

Main definitions:

* `Compiles`: what the phases ask of a source;
* `Compilation.Agrees`: a result that says what the phases say.

Main statements:

* `compile_of_outline`, `compile_of_errors`, `compile_of_compiles`: the three ways;
* `compile_agrees`: every result agrees with the phases, and an image is all that the
  options add to it.
-/

namespace Vivarium.Source

/-! ## The three ways to end -/

/-- What the phases ask of a source: nothing is reported about its outline, and no error
about its blueprint. -/
structure Compiles (source : String) : Prop where
  outline : outlineErrors source = []
  findings : ∀ d ∈ (Blueprint.ofSource source).diagnostics, d.isError = false

theorem compiles_iff {source : String} :
    Compiles source ↔ outlineErrors source = [] ∧ (Blueprint.ofSource source).errors = [] := by
  rw [Blueprint.errors_eq_nil_iff]
  exact ⟨fun sound => ⟨sound.outline, sound.findings⟩, fun sound => ⟨sound.1, sound.2⟩⟩

section Ways

variable {source : String} (options : CompileOptions) (now : Instant)

theorem compile_of_outline (flawed : outlineErrors source ≠ []) :
    compile source options now = Compilation.failed (outlineErrors source) [] := by
  unfold outlineErrors at flawed ⊢
  simp [compile, flawed]

theorem compile_of_errors (arranged : outlineErrors source = [])
    (flawed : (Blueprint.ofSource source).errors ≠ []) :
    compile source options now =
      Compilation.failed (Blueprint.ofSource source).errors
        (warningTexts (Blueprint.ofSource source) (Blueprint.ofSource source).diagnostics) := by
  unfold outlineErrors at arranged
  unfold Blueprint.errors Blueprint.ofSource at flawed ⊢
  simp only [compile, arranged, List.isEmpty_nil, List.isEmpty_eq_false_iff.mpr flawed,
    Bool.not_true, Bool.not_false, Bool.false_eq_true, if_false, if_true]

theorem compile_of_compiles (sound : Compiles source) :
    compile source options now =
      { success := true
        organism := some ((Blueprint.ofSource source).normal.grow now)
        errors := []
        warnings :=
          warningTexts (Blueprint.ofSource source) (Blueprint.ofSource source).diagnostics
        image := if options.withImage then some (Blueprint.ofSource source).normal.image
          else none
        measurements := Measurements.ofBlueprint (Blueprint.ofSource source).normal } := by
  obtain ⟨arranged, flawless⟩ := compiles_iff.mp sound
  unfold outlineErrors at arranged
  unfold Blueprint.errors Blueprint.ofSource at flawless
  simp only [compile, arranged, flawless, Blueprint.ofSource, List.isEmpty_nil, Bool.not_true,
    Bool.false_eq_true, if_false]

/-- A source is flawed in its outline, or in its blueprint, or it compiles. -/
theorem compiles_cases (source : String) :
    outlineErrors source ≠ [] ∨
      (outlineErrors source = [] ∧ (Blueprint.ofSource source).errors ≠ []) ∨
      Compiles source := by
  rw [compiles_iff]
  by_cases arranged : outlineErrors source = []
  · by_cases flawless : (Blueprint.ofSource source).errors = []
    · exact .inr (.inr ⟨arranged, flawless⟩)
    · exact .inr (.inl ⟨arranged, flawless⟩)
  · exact .inl arranged

end Ways

/-! ## The genes of an organism -/

namespace Compiles

variable {source : String} (sound : Compiles source)
include sound

/-- Its genes have different names and categories that exist. -/
theorem geneErrors_eq_nil : geneErrors [] (Blueprint.ofSource source).genes = [] :=
  Blueprint.geneErrors_of_errors (compiles_iff.mp sound).2

/-- The normal form of a compiling source keeps every gene as it was declared. -/
theorem normal_genes :
    (Blueprint.ofSource source).normal.genes = (Blueprint.ofSource source).genes :=
  mergeGenes_of_nodup (geneErrors_eq_nil_iff.mp sound.geneErrors_eq_nil).1

/-- The organism of a compiling source has the declared genes. -/
theorem bears (now : Instant) :
    Bears (Blueprint.ofSource source).genes
      ((Blueprint.ofSource source).normal.grow now).genes := by
  show Bears _ (Blueprint.bearGenes 1 (Blueprint.ofSource source).normal.genes)
  rw [sound.normal_genes]
  exact bears_bearGenes (geneErrors_eq_nil_iff.mp sound.geneErrors_eq_nil).2.2

end Compiles

/-- The genes of an organism carry declared names, so these are legal and different if the
declared ones are. -/
theorem Bears.isIdentifier {declared : List GeneDeclaration} {genes : List Gene}
    (bears : Bears declared genes) (legal : ∀ g ∈ declared, isIdentifier g.name = true)
    {gene : Gene} (member : gene ∈ genes) : isIdentifier gene.name = true := by
  have listed : gene.name ∈ declared.map (·.name) := by
    rw [← bears.names]
    exact List.mem_map_of_mem member
  obtain ⟨g, declares, same⟩ := List.mem_map.mp listed
  rw [← same]
  exact legal g declares

/-! ## Agreement -/

/-- The organism of a source: it grows from the normal blueprint, and its genes are the
declared ones, under different and legal names. -/
structure Organism.GrowsFrom (o : Organism) (source : String) (now : Instant) : Prop where
  grown : o = (Blueprint.ofSource source).normal.grow now
  unmerged : (Blueprint.ofSource source).normal.genes = (Blueprint.ofSource source).genes
  bears : Bears (Blueprint.ofSource source).genes o.genes
  distinct : (o.genes.map (·.name)).Nodup
  legal : ∀ gene ∈ o.genes, isIdentifier gene.name = true

theorem Compiles.growsFrom {source : String} (sound : Compiles source) (now : Instant) :
    Organism.GrowsFrom ((Blueprint.ofSource source).normal.grow now) source now where
  grown := rfl
  unmerged := sound.normal_genes
  bears := sound.bears now
  distinct := by
    rw [(sound.bears now).names]
    exact (geneErrors_eq_nil_iff.mp sound.geneErrors_eq_nil).1
  legal := by
    refine fun gene member => (sound.bears now).isIdentifier ?_ member
    exact fun g declared => isIdentifier_of_tokenErrors_eq_nil sound.outline _ declared

/-- A result that says what the phases say about its source. -/
structure Compilation.Agrees (result : Compilation) (source : String)
    (options : CompileOptions) (now : Instant) : Prop where
  /-- It is a success if no phase objects. -/
  success_iff : result.success = true ↔ Compiles source
  /-- Exactly a success has an organism, -/
  organism_iff : result.success = true ↔ result.organism.isSome = true
  /-- exactly a success has no errors, -/
  errors_iff : result.success = true ↔ result.errors = []
  /-- and exactly a success has an image, if one is wanted. -/
  image_iff : result.image.isSome = true ↔ result.success = true ∧ options.withImage = true
  /-- A flawed outline is all that is reported. -/
  outline : outlineErrors source ≠ [] →
    result.errors = outlineErrors source ∧ result.warnings = []
  /-- Otherwise a failure reports the errors about the blueprint, in order. -/
  findings : outlineErrors source = [] → result.success = false →
    result.errors = (Blueprint.ofSource source).diagnostics.filter Diagnostic.isError
  /-- A success has the organism of the source, -/
  organism : result.success = true →
    ∃ o, result.organism = some o ∧ Organism.GrowsFrom o source now
  /-- and its genes are counted. -/
  counted : result.success = true →
    result.measurements.geneCount = (Blueprint.ofSource source).genes.length

theorem agrees_of_outline {source : String} (flawed : outlineErrors source ≠ [])
    (options : CompileOptions) (now : Instant) :
    (Compilation.failed (outlineErrors source) []).Agrees source options now where
  success_iff := by simp [Compilation.failed, compiles_iff, flawed]
  organism_iff := by simp [Compilation.failed]
  errors_iff := by simp [Compilation.failed, flawed]
  image_iff := by simp [Compilation.failed]
  outline _ := ⟨rfl, rfl⟩
  findings arranged := absurd arranged flawed
  organism impossible := nomatch impossible
  counted impossible := nomatch impossible

theorem agrees_of_errors {source : String} (arranged : outlineErrors source = [])
    (flawed : (Blueprint.ofSource source).errors ≠ []) (warnings : List String)
    (options : CompileOptions) (now : Instant) :
    (Compilation.failed (Blueprint.ofSource source).errors warnings).Agrees source options
      now where
  success_iff := by simp [Compilation.failed, compiles_iff, flawed]
  organism_iff := by simp [Compilation.failed]
  errors_iff := by simp [Compilation.failed, flawed]
  image_iff := by simp [Compilation.failed]
  outline unarranged := absurd arranged unarranged
  findings _ _ := rfl
  organism impossible := nomatch impossible
  counted impossible := nomatch impossible

theorem agrees_of_compiles {source : String} (sound : Compiles source)
    (options : CompileOptions) (now : Instant) :
    (compile source options now).Agrees source options now := by
  rw [compile_of_compiles options now sound]
  exact
    { success_iff := by simp [sound]
      organism_iff := by simp
      errors_iff := by simp
      image_iff := by cases wanted : options.withImage <;> simp
      outline := fun flawed => absurd sound.outline flawed
      findings := fun _ impossible => nomatch impossible
      organism := fun _ => ⟨_, rfl, sound.growsFrom now⟩
      counted := fun _ => congrArg List.length sound.normal_genes }

/-- **The compiler agrees with its phases.**  The result of every source says what the
phases say, and whether an image is wanted makes no difference to the rest of it. -/
theorem compile_agrees (source : String) (options : CompileOptions) (now : Instant) :
    (compile source options now).Agrees source options now ∧
      ∀ others : CompileOptions,
        { compile source others now with image := none } =
          { compile source options now with image := none } := by
  rcases compiles_cases source with flawed | ⟨arranged, flawed⟩ | sound
  · refine ⟨?_, fun others => ?_⟩
    · rw [compile_of_outline options now flawed]
      exact agrees_of_outline flawed options now
    · rw [compile_of_outline options now flawed, compile_of_outline others now flawed]
  · refine ⟨?_, fun others => ?_⟩
    · rw [compile_of_errors options now arranged flawed]
      exact agrees_of_errors arranged flawed _ options now
    · rw [compile_of_errors options now arranged flawed,
        compile_of_errors others now arranged flawed]
  · refine ⟨agrees_of_compiles sound options now, fun others => ?_⟩
    rw [compile_of_compiles options now sound, compile_of_compiles others now sound]

-- a source that gets through all phases, and one that the check of its blueprint stops
example : (compile "organism A \x7b\n gene B: sensor \x7b x \x7d\n\x7d" ⟨true⟩ ⟨0, 0⟩).success =
    true := by decide +kernel

example : (compile "organism A \x7b\n gene B: odd \x7b x \x7d\n\x7d" ⟨true⟩ ⟨0, 0⟩).success =
    false := by decide +kernel

end Vivarium.Source
