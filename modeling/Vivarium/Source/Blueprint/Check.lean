import Vivarium.Number.Numeral
import Vivarium.Organism.Gene
import Vivarium.Source.Blueprint
import Vivarium.Source.Diagnostic
import Vivarium.Source.Token

/-!
# Checking a blueprint

A blueprint that was read from a well-arranged source can still contradict
itself: two genes of one name, a category that does not exist, a rate that is no
number.  Those are errors.  A number outside of the unit interval is only warned
about, because it is clamped later.

Main definitions:

* `nameErrors`, `geneErrors`, `stateWarnings`, `settingDiagnostics`: the four
  parts of the check;
* `Blueprint.diagnostics`: all findings, sorted by line.
-/

namespace Vivarium.Source

/-- The number lies in the closed unit interval; a NaN does not. -/
def inUnit (x : Float) : Bool := 0.0 ≤ x && x ≤ 1.0

/-- The error of a name that is no identifier. -/
def nameErrors (b : Blueprint) : List Diagnostic :=
  if isIdentifier b.name then []
  else [Diagnostic.semantic b.line ("Invalid organism name '" ++ b.name ++ "'")]

/-- The error of a gene whose name was used before. -/
def duplicateError (seen : List String) (g : GeneDeclaration) : List Diagnostic :=
  if seen.contains g.name then
    [Diagnostic.semantic g.line ("Duplicate gene name '" ++ g.name ++ "'")]
  else []

/-- The error of a gene whose category does not exist. -/
def categoryError (g : GeneDeclaration) : List Diagnostic :=
  match Gene.Category.ofName? g.category with
  | some _ => []
  | none =>
      [Diagnostic.semantic g.line ("Invalid gene category '" ++ g.category ++ "' for gene '" ++
        g.name ++ "'; expected one of " ++
        ", ".intercalate (Gene.Category.all.map Gene.Category.name))]

/-- The errors of genes that stand behind genes with the given names. -/
def geneErrors (seen : List String) : List GeneDeclaration → List Diagnostic
  | [] => []
  | g :: rest => duplicateError seen g ++ categoryError g ++ geneErrors (g.name :: seen) rest

/-- The warning about a state variable that is a number outside of the unit
interval. -/
def stateWarning (v : Variable) : List Diagnostic :=
  match v.value with
  | .number x =>
      if inUnit x then []
      else
        [Diagnostic.warning v.line ("State variable '" ++ v.name ++ "' = " ++
          Number.plain x ++ " is outside [0, 1] and will be clamped")]
  | .text _ => []

/-- The warnings about state variables, by name. -/
def stateWarnings (b : Blueprint) : List Diagnostic := b.state.values.flatMap stateWarning

/-- The evolution settings that have to be numbers of the unit interval. -/
def unitSettings : List String := ["mutation_rate", "selection_pressure"]

/-- The finding about a setting that has to be a number: an error if it is none
or not finite, a warning if it lies outside of the unit interval. -/
def settingDiagnostic (key : String) (s : Setting) : List Diagnostic :=
  match (Number.read? s.value.toList).filter Number.isFinite with
  | some x =>
      if inUnit x then []
      else
        [Diagnostic.warning s.line ("Evolution setting '" ++ key ++ "' = " ++ Number.plain x ++
          " is outside [0, 1]")]
  | none =>
      [Diagnostic.semantic s.line ("Evolution setting '" ++ key ++ "' must be a number, got '" ++
        s.value ++ "'")]

/-- The findings about the evolution settings. -/
def settingDiagnostics (b : Blueprint) : List Diagnostic :=
  unitSettings.flatMap fun key =>
    match b.evolution.find? key with
    | some s => settingDiagnostic key s
    | none => []

/-- Everything found about a blueprint, sorted by line.  On one line the name
comes first, then genes, state variables and settings. -/
def Blueprint.diagnostics (b : Blueprint) : List Diagnostic :=
  (nameErrors b ++ geneErrors [] b.genes ++ stateWarnings b ++
    settingDiagnostics b).mergeSort Diagnostic.lineLe

end Vivarium.Source
