import Vivarium.Number.Word

/-!
# The binary form of a double

State values, rates and scores are IEEE doubles.  Whatever has to be exact about
them is read off their sixty-four bits: a finite double is `m · 2 ^ q` with a
natural number `m`, so comparing, rounding and printing are questions about
integers.

Main definitions:

* `magnitude`, `isNegative`: the two halves of the bit pattern;
* `Scaled`, `scaled`: the pair `m`, `q` of a finite double;
* `rank`, `totalLe`: the total order, in which `-0.0` comes before `0.0` and a
  NaN after everything else;
* `roundToWord`, `floorToInt64`, `ceilToInt64`: the three ways to an integer, cut to the range of
  a machine word;
* `clamp`, `maxIgnoringNaN`, `sum`: operations that fix what a NaN does and
  where a sum starts.
-/

namespace Vivarium.Number

/-- The leading bit of a significand, which normal numbers leave out. -/
def hiddenBit : Nat := 0x10000000000000

/-- The bits of a double apart from its sign. -/
def magnitude (x : Float) : Nat := x.toBits.toNat % signBound

/-- The sign bit is set. -/
def isNegative (x : Float) : Bool := signBound ≤ x.toBits.toNat

/-- Infinities and NaN have all exponent bits set. -/
def isFinite (x : Float) : Bool := magnitude x < 2047 * hiddenBit

/-- A nonnegative number `significand * 2 ^ exponent`. -/
structure Scaled where
  significand : Nat
  exponent : Int
  deriving Repr, DecidableEq

/-- The absolute value of a finite double.  The exponent field is one too small
for subnormal numbers, whose significand has no implicit leading bit. -/
def scaled (x : Float) : Scaled :=
  let field : Nat := magnitude x / hiddenBit
  let fraction : Nat := magnitude x % hiddenBit
  if field = 0 then ⟨fraction, -1074⟩ else ⟨hiddenBit + fraction, (field : Int) - 1075⟩

/-- The position of a double in the total order of bit patterns: a negative
number counts downward from `-1`, so that `-0.0` lies just below `0.0`. -/
def rank (x : Float) : Int :=
  if isNegative x then -(magnitude x : Int) - 1 else magnitude x

/-- The total order of doubles. -/
def totalLe (x y : Float) : Bool := rank x ≤ rank y

/-- Numerator and denominator of a scaled number. -/
def Scaled.fraction (s : Scaled) : Nat × Nat :=
  (s.significand * Nat.pow 2 s.exponent.toNat, Nat.pow 2 (-s.exponent).toNat)

/-- The integer nearest to a nonnegative fraction, a half going upward. -/
def nearest (num den : Nat) : Nat := (2 * num + den) / (2 * den)

/-- The largest value of an unsigned machine word. -/
def maxWord : Nat := wordBound - 1

/-- A natural number cut to a machine word. -/
def saturateNat (n : Nat) : Nat := min n maxWord

/-- An integer cut to the range of a signed machine word. -/
def saturateInt64 (n : Int) : Int := max (-(signBound : Int)) (min n (signBound - 1))

/-- A double rounded to a machine word, halves going away from zero.  A NaN or
a negative number gives zero, and whatever is too large the largest word. -/
def roundToWord (x : Float) : Nat :=
  if x.isNaN || isNegative x then 0
  else if !isFinite x then maxWord
  else
    let (num, den) := (scaled x).fraction
    saturateNat (nearest num den)

/-- The largest integer not above a double, cut to a signed machine word.  A NaN
gives zero. -/
def floorToInt64 (x : Float) : Int :=
  if x.isNaN then 0
  else if !isFinite x then (if isNegative x then -(signBound : Int) else signBound - 1)
  else
    let (num, den) := (scaled x).fraction
    saturateInt64 ((if isNegative x then -(num : Int) else num).fdiv den)

/-- The smallest integer not below a double, cut to a signed machine word.  A NaN
gives zero. -/
def ceilToInt64 (x : Float) : Int :=
  if x.isNaN then 0
  else if !isFinite x then (if isNegative x then -(signBound : Int) else signBound - 1)
  else
    let (num, den) := (scaled x).fraction
    saturateInt64 (-((if isNegative x then (num : Int) else -num).fdiv den))

/-- A natural number as the nearest double. -/
def ofNat (n : Nat) : Float := Float.ofScientific n false 0

/-- A number held between two bounds.  A NaN is not below either bound and stays
a NaN. -/
def clamp (x low high : Float) : Float :=
  if x < low then low else if high < x then high else x

/-- The greater of two numbers; a NaN gives way to the other operand. -/
def maxIgnoringNaN (x y : Float) : Float :=
  if x.isNaN then y else if y.isNaN then x else if x < y then y else x

/-- The smallest difference of a double above one. -/
def epsilon : Float := Float.ofBits 0x3CB0000000000000

/-- The sum of a list from the left.  The empty sum is `-0.0`, the neutral
element of addition also for negative zeros. -/
def sum (values : List Float) : Float := values.foldl (· + ·) (-0.0)

theorem totalLe_refl (x : Float) : totalLe x x = true := by simp [totalLe]

theorem totalLe_trans {x y z : Float} (first : totalLe x y = true)
    (second : totalLe y z = true) : totalLe x z = true := by
  simp only [totalLe, decide_eq_true_eq] at *
  omega

theorem totalLe_total (x y : Float) : (totalLe x y || totalLe y x) = true := by
  simp only [totalLe, Bool.or_eq_true, decide_eq_true_eq]
  omega

end Vivarium.Number
