import Vivarium.Directory
import Vivarium.Number.Layout
import Vivarium.Text.Quoted

/-!
# Blueprints

A blueprint is what a source says about its organism: the name, the declared
state variables, the genes in the order of the source, the workflow program and
the settings of its evolution.  State variables and settings are kept by name;
of two declarations of one name the later one counts.

Main definitions:

* `Datum`: the value of a state variable, a number or a text;
* `Variable`, `GeneDeclaration`, `Setting`: the declarations;
* `Blueprint`: the whole organism as declared.
-/

namespace Vivarium.Source

/-- The value of a state variable after it was read according to its type. -/
inductive Datum where
  | number (value : Float)
  | text (value : String)
  deriving Repr, DecidableEq

namespace Datum

/-- The value as a number, if it is one. -/
def number? : Datum → Option Float
  | .number x => some x
  | .text _ => none

/-- The value as it is displayed: numbers plainly, texts between quotes. -/
def display : Datum → String
  | .number x => Number.plain x
  | .text s => Text.quote s

end Datum

/-- A declared state variable. -/
structure Variable where
  name : String
  ty : String
  value : Datum
  line : Nat
  deriving Repr, DecidableEq

/-- The category of a gene that declares none. -/
def defaultCategory : String := "processor"

/-- A declared gene.  Its body is the text between its braces, trimmed. -/
structure GeneDeclaration where
  name : String
  category : String
  body : String
  line : Nat
  deriving Repr, DecidableEq

/-- A setting of the evolution section. -/
structure Setting where
  value : String
  line : Nat
  deriving Repr, DecidableEq

/-- What a source says about its organism. -/
structure Blueprint where
  name : String
  line : Nat
  state : Directory String Variable
  genes : List GeneDeclaration
  workflow : String
  evolution : Directory String Setting

namespace Blueprint

/-- The blueprint of a source without an organism. -/
def empty : Blueprint := ⟨"", 0, Directory.empty, [], "", Directory.empty⟩

instance : Inhabited Blueprint := ⟨empty⟩

/-- The text of an evolution setting. -/
def setting? (b : Blueprint) (key : String) : Option String :=
  (b.evolution.find? key).map (·.value)

/-- The number of characters in all gene bodies together. -/
def bodyLength (b : Blueprint) : Nat := b.genes.foldl (fun total g => total + g.body.length) 0

/-- The blueprint with a state variable, in place of an older one of its name. -/
def declare (b : Blueprint) (v : Variable) : Blueprint :=
  { b with state := b.state.insert v.name v }

/-- The blueprint with a setting, in place of an older one of its key. -/
def set (b : Blueprint) (key : String) (s : Setting) : Blueprint :=
  { b with evolution := b.evolution.insert key s }

end Blueprint

end Vivarium.Source
