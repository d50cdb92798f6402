import Vivarium.Json.Printer
import Vivarium.Number.Numeral
import Vivarium.Organism.Basic
import Vivarium.Source.Blueprint

/-!
# Growing an organism from a blueprint

A blueprint becomes an organism with the id of its name.  State variables that
are named like a vital value and hold a number set that value; genes are
numbered from one and all active; settings that do not make sense fall back to
the initial ones.  The image of a blueprint is a small JSON text for machines
that only need its outline.

Main definitions:

* `Blueprint.grow`: the organism;
* `Blueprint.image`: the image.
-/

namespace Vivarium.Source.Blueprint

/-- The value declared for a vital value, clamped, or else the given one. -/
def vital (b : Blueprint) (name : String) (initial : Float) : Float :=
  match (b.state.find? name).bind (·.value.number?) with
  | some x => clampUnit x
  | none => initial

/-- The state that an organism is born with. -/
def birthState (b : Blueprint) : State :=
  let initial := State.initial
  State.normalize
    { initial with
      consciousness := b.vital "consciousness" initial.consciousness
      quantumCoherence := b.vital "quantum_coherence" initial.quantumCoherence
      fitness := b.vital "fitness" initial.fitness
      energy := b.vital "energy" initial.energy }

/-- The gene of a declaration. -/
def bearGene (g : GeneDeclaration) (id : UInt64) : Gene :=
  { id := id
    name := g.name
    category := (Gene.Category.ofName? g.category).getD .processor
    body := g.body
    active := true
    contribution := Gene.initialContribution }

/-- The genes of the declarations, numbered upward from a number. -/
def bearGenes (id : UInt64) : List GeneDeclaration → List Gene
  | [] => []
  | g :: rest => bearGene g id :: bearGenes (id + 1) rest

/-- The rate that a setting gives, clamped; a setting that is missing or no
finite number gives the initial one. -/
def rate (b : Blueprint) (key : String) (initial : Float) : Float :=
  match (b.setting? key).bind fun text =>
      (Number.read? text.toList).filter Number.isFinite with
  | some x => clampUnit x
  | none => initial

/-- The evolution settings of the organism. -/
def evolvability (b : Blueprint) : Evolvability :=
  let initial := Evolvability.initial
  { goal := ((b.setting? "fitness_goal").filter fun text => !text.isEmpty).getD initial.goal
    mutationRate := b.rate "mutation_rate" initial.mutationRate
    selectionPressure := b.rate "selection_pressure" initial.selectionPressure }

/-- The organism that grows from a blueprint. -/
def grow (b : Blueprint) (now : Instant) : Organism :=
  { Organism.newborn b.name now with
    state := b.birthState
    genes := bearGenes 1 b.genes
    workflow := b.workflow
    evolution := b.evolvability }

/-- The steps that every image lists. -/
def instructions : List String := ["INIT_STATE", "LOAD_GENES", "EXEC_WORKFLOW", "EVOLVE"]

/-- The image of a blueprint. -/
def image (b : Blueprint) : String :=
  Json.pretty <| Json.record
    [("organism", Json.text b.name),
     ("state_vars", Json.nat b.state.size),
     ("genes", Json.nat b.genes.length),
     ("instructions", Json.list Json.text instructions)]

end Vivarium.Source.Blueprint
