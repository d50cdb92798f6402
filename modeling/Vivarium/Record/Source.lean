import Vivarium.Record.Organism
import Vivarium.Source.Compiler

/-!
# Records of compiling

How tokens, blueprints, diagnostics and the results of the compiler are kept.
The value of a state variable is kept as it is, a number or a text.
-/

namespace Vivarium

open Source

instance Token.Kind.instRecord : Record Token.Kind := .ofNames Token.Kind.all Token.Kind.name

instance : Record Token := .ofLayout <|
  Layout.start Token.mk
    |>.field "kind" (·.kind)
    |>.field "text" (·.text)
    |>.field "line" (·.line)
    |>.field "column" (·.column)
    |>.field "offset" (·.offset)
    |>.field "length" (·.length)

instance : Record Datum where
  write
    | .number x => Record.write x
    | .text s => Record.write s
  readIn? d j := (Record.readIn? d j).map .number <|> (Record.readIn? d j).map .text

instance : Record Variable := .ofLayout <|
  Layout.start Variable.mk
    |>.field "name" (·.name)
    |>.field "ty" (·.ty)
    |>.field "value" (·.value)
    |>.field "line" (·.line)

instance : Record GeneDeclaration := .ofLayout <|
  Layout.start GeneDeclaration.mk
    |>.field "name" (·.name)
    |>.field "category" (·.category)
    |>.field "body" (·.body)
    |>.field "line" (·.line)

instance : Record Setting := .ofLayout <|
  Layout.start Setting.mk
    |>.field "value" (·.value)
    |>.field "line" (·.line)

instance : Record Blueprint := .ofLayout <|
  Layout.start Blueprint.mk
    |>.field "name" (·.name)
    |>.field "line" (·.line)
    |>.field "state" (·.state)
    |>.field "genes" (·.genes)
    |>.field "workflow" (·.workflow)
    |>.field "evolution" (·.evolution)

instance Diagnostic.Category.instRecord : Record Diagnostic.Category :=
  .ofNames Diagnostic.Category.all Diagnostic.Category.name

instance Diagnostic.Severity.instRecord : Record Diagnostic.Severity :=
  .ofNames Diagnostic.Severity.all Diagnostic.Severity.name

instance : Record Diagnostic := .ofLayout <|
  Layout.start Diagnostic.mk
    |>.field "line" (·.line)
    |>.field "column" (·.column)
    |>.field "message" (·.message)
    |>.field "category" (·.category)
    |>.field "severity" (·.severity)

instance : Record CompileOptions := .ofLayout <|
  Layout.start CompileOptions.mk
    |>.field "generate_bytecode" (·.withImage)

instance : Record Measurements := .ofLayout <|
  Layout.start Measurements.mk
    |>.field "compile_time_ms" (·.compileTimeMs)
    |>.field "organism_complexity" (·.complexity)
    |>.field "gene_count" (·.geneCount)
    |>.field "workflow_complexity" (·.workflowComplexity)
    |>.field "estimated_performance" (·.estimatedPerformance)

instance : Record Compilation := .ofLayout <|
  Layout.start Compilation.mk
    |>.field "success" (·.success)
    |>.optional "organism" (·.organism)
    |>.field "errors" (·.errors)
    |>.field "warnings" (·.warnings)
    |>.optional "bytecode" (·.image)
    |>.field "metadata" (·.measurements)

end Vivarium
