import Vivarium.Organism.Growth
import Vivarium.Source.Blueprint.Check
import Vivarium.Source.Blueprint.Normal
import Vivarium.Source.Blueprint.Reader
import Vivarium.Source.Outline

/-!
# Compiling a source

A source is compiled in order: its outline is checked, its blueprint is read and
checked, and an organism grows from the normal blueprint.  Errors of the outline
keep the later steps from running; errors of the blueprint keep the organism
from growing.  Either way every finding is part of the result.

Main definitions:

* `CompileOptions`: what is wanted beside the organism;
* `Measurements`: figures about a compiled blueprint;
* `Compilation`: the result;
* `compile`: the whole way from text to organism;
* `compileOrganism`: the organism alone, or the errors in its place.
-/

namespace Vivarium.Source

/-- What is wanted of a compilation beside the organism. -/
structure CompileOptions where
  withImage : Bool
  deriving Repr, DecidableEq

/-- Figures about the size of a blueprint. -/
structure Measurements where
  compileTimeMs : Float
  complexity : Float
  geneCount : Nat
  workflowComplexity : Float
  estimatedPerformance : Float
  deriving Repr, DecidableEq

namespace Measurements

/-- The figures of a source that did not compile. -/
def zero : Measurements := ⟨0.0, 0.0, 0, 0.0, 0.0⟩

/-- The figures of a blueprint. -/
def ofBlueprint (b : Blueprint) : Measurements :=
  let workflowLength := Number.ofNat b.workflow.length
  let complexity := clampUnit
    (0.05 * Number.ofNat b.state.size + 0.002 * Number.ofNat b.bodyLength +
      0.001 * workflowLength)
  { compileTimeMs := 0.0
    complexity := complexity
    geneCount := b.genes.length
    workflowComplexity := clampUnit (workflowLength / 500.0)
    estimatedPerformance := 1.0 - 0.5 * complexity }

end Measurements

/-- The result of compiling a source. -/
structure Compilation where
  success : Bool
  organism : Option Organism
  errors : List Diagnostic
  warnings : List String
  image : Option String
  measurements : Measurements
  deriving Repr

namespace Compilation

/-- The result of a source with errors. -/
def failed (errors : List Diagnostic) (warnings : List String) : Compilation :=
  ⟨false, none, errors, warnings, none, Measurements.zero⟩

end Compilation

/-- The warning about a blueprint without genes. -/
def noGenesWarning : String := "Organism has no genes defined"

/-- The warning about a blueprint without state variables. -/
def noStateWarning : String := "Organism has no state variables defined"

/-- The warnings about a blueprint with the given findings. -/
def warningTexts (b : Blueprint) (findings : List Diagnostic) : List String :=
  (findings.filter fun d => !d.isError).map Diagnostic.render ++
    (if b.genes.isEmpty then [noGenesWarning] else []) ++
    (if b.state.isEmpty then [noStateWarning] else [])

/-- The result of a source, with the image of the blueprint if it is wanted. -/
def compile (source : String) (options : CompileOptions) (now : Instant) : Compilation :=
  let tokens := tokenize source
  let outline := tokenErrors tokens
  if !outline.isEmpty then Compilation.failed outline []
  else
    let blueprint := Blueprint.ofTokens source.toList tokens
    let findings := blueprint.diagnostics
    let errors := findings.filter Diagnostic.isError
    let warnings := warningTexts blueprint findings
    if !errors.isEmpty then Compilation.failed errors warnings
    else
      let normal := blueprint.normal
      { success := true
        organism := some (normal.grow now)
        errors := []
        warnings := warnings
        image := if options.withImage then some normal.image else none
        measurements := Measurements.ofBlueprint normal }

/-- The text about a source that did not compile: the number of errors and the
first of them. -/
def failureText (errors : List Diagnostic) : String :=
  "Compilation failed with " ++ toString errors.length ++ " error(s); first: " ++
    ((errors.head?.map Diagnostic.render).getD "none")

/-- The organism of a source, or the errors of a source without one. -/
def compileOrganism (source : String) (now : Instant) : Except (List Diagnostic) Organism :=
  let result := compile source ⟨false⟩ now
  match result.organism with
  | some o => .ok o
  | none => .error result.errors

end Vivarium.Source
