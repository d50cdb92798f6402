/-!
# Genes

A gene of a living organism has a number that is unique within the organism, a
category, a descriptive body that is never executed, and the amount by which it
moves the fitness of its organism while it is active.

Main definitions:

* `Gene.Category`: the four kinds of behaviour;
* `Gene`: a gene of a living organism.
-/

namespace Vivarium

namespace Gene

/-- What a gene does for its organism. -/
inductive Category where
  | sensor
  | processor
  | actuator
  | memory
  deriving Repr, DecidableEq, Inhabited

namespace Category

/-- The categories in the order in which they are listed. -/
def all : List Category := [.sensor, .processor, .actuator, .memory]

/-- The name of a category. -/
def name : Category → String
  | .sensor => "sensor"
  | .processor => "processor"
  | .actuator => "actuator"
  | .memory => "memory"

/-- The category of a name. -/
def ofName? (text : String) : Option Category := all.find? fun c => c.name = text

/-- The complaint about a name that no category has. -/
def unknown (text : String) : String := "unknown gene category '" ++ text ++ "'"

end Category

end Gene

/-- A gene of a living organism. -/
structure Gene where
  id : UInt64
  name : String
  category : Gene.Category
  body : String
  active : Bool
  contribution : Float
  deriving Repr, DecidableEq

namespace Gene

/-- The contribution of a gene when its organism is born. -/
def initialContribution : Float := 0.1

/-- Mutations keep a contribution between this bound and its negative. -/
def contributionLimit : Float := 1.0

/-- The number of a gene as it is displayed. -/
def displayId (id : UInt64) : String := "gene-" ++ toString id

end Gene

end Vivarium
