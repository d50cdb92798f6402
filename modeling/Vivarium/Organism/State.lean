import Vivarium.Number.Binary64

/-!
# The state of an organism

An organism carries four vital values, each meant to lie in the unit interval,
and two counts, which are words.  Operations that move a value bring it back into
the interval at once.  A value that is no number at all counts as zero when it is
clamped and is reset to its initial value when the state is healed.  A count that
goes beyond the last word starts over.

Main definitions:

* `clampUnit`: the nearest number of the unit interval;
* `State`: vital values and counts;
* `State.normalize`, `State.heal`: back into the interval, and back to numbers.
-/

namespace Vivarium

/-- The nearest number of the unit interval; a NaN gives zero. -/
def clampUnit (x : Float) : Float := if x.isNaN then 0.0 else Number.clamp x 0.0 1.0

/-- The vital values and the counts of an organism. -/
structure State where
  consciousness : Float
  quantumCoherence : Float
  fitness : Float
  energy : Float
  mutations : UInt64
  generation : UInt64
  deriving Repr, DecidableEq

namespace State

/-- The state of a newborn organism. -/
def initial : State := ⟨0.5, 0.5, 0.5, 1.0, 0, 1⟩

instance : Inhabited State := ⟨initial⟩

/-- The state with its vital values in the unit interval. -/
def normalize (s : State) : State :=
  { s with
    consciousness := clampUnit s.consciousness
    quantumCoherence := clampUnit s.quantumCoherence
    fitness := clampUnit s.fitness
    energy := clampUnit s.energy }

/-- The vital values in the order of their declaration. -/
def vitals (s : State) : List Float := [s.consciousness, s.quantumCoherence, s.fitness, s.energy]

/-- All vital values are finite numbers. -/
def isFinite (s : State) : Bool := s.vitals.all Number.isFinite

/-- A vital value, or its initial value in place of one that is not finite. -/
def mend (value fallback : Float) : Float := if Number.isFinite value then value else fallback

/-- The state with values that are not finite set back to their initial ones and
the others brought into the unit interval. -/
def heal (s : State) : State :=
  normalize { s with
    consciousness := mend s.consciousness initial.consciousness
    quantumCoherence := mend s.quantumCoherence initial.quantumCoherence
    fitness := mend s.fitness initial.fitness
    energy := mend s.energy initial.energy }

/-- The number of vital values that healing sets back. -/
def wounds (s : State) : Nat := s.vitals.countP fun x => !Number.isFinite x

end State

end Vivarium
