import Vivarium.Number.Binary64

/-!
# The shortest decimal of a double

Among the decimals that read back as a given double there is a least number of
digits, and among the decimals with that many digits a nearest one.  That
decimal stands for the double in every text.

The reals that round to `m · 2 ^ q` form an interval around it; its ends belong
to it when `m` is even.  For one digit, two digits and so on up to seventeen,
the two neighbours of the value on the decimal grid are tested against that
interval.  The first grid with a hit wins.  If any point of a grid lies in the
interval then one of the two neighbours does, so no shorter decimal is missed.

Main definitions:

* `Window`: a value with its rounding interval over one denominator;
* `Decimal`: `digits * 10 ^ exponent`;
* `shortest`: the decimal of a positive finite double.
-/

namespace Vivarium.Number

/-- A positive number and the interval of reals that round to it, all three as
numerators over the denominator `den`. -/
structure Window where
  low : Nat
  value : Nat
  high : Nat
  den : Nat
  /-- The two ends of the interval belong to it. -/
  closed : Bool
  deriving Repr

/-- The rounding interval of a positive finite double.  Below a power of two the
neighbouring double is only half as far away. -/
def window (x : Float) : Window :=
  let s := scaled x
  let m := s.significand
  let q := s.exponent - 2
  let scale := Nat.pow 2 q.toNat
  let below := if m = hiddenBit && -1074 < s.exponent then 1 else 2
  { low := (4 * m - below) * scale
    value := 4 * m * scale
    high := (4 * m + 2) * scale
    den := Nat.pow 2 (-q).toNat
    closed := m % 2 = 0 }

/-- The number `digits * 10 ^ exponent`. -/
structure Decimal where
  digits : Nat
  exponent : Int
  deriving Repr, DecidableEq

/-- The numerators of a window and of a grid step `10 ^ exponent` over a common
denominator: the window is stretched by the first number, and a grid step
measures the second. -/
def gridScale (w : Window) (exponent : Int) : Nat × Nat :=
  (Nat.pow 10 (-exponent).toNat, w.den * Nat.pow 10 exponent.toNat)

/-- The decimal `digits * 10 ^ exponent` rounds to the window's value. -/
def Window.holds (w : Window) (exponent : Int) (digits : Nat) : Bool :=
  let (stretch, step) := gridScale w exponent
  let point := digits * step
  let low := w.low * stretch
  let high := w.high * stretch
  if w.closed then low ≤ point && point ≤ high else low < point && point < high

/-- The nearest point of the grid `10 ^ exponent` that rounds to the window's
value.  Of two points equally near the even one is taken. -/
def Window.gridPoint? (w : Window) (exponent : Int) : Option Nat :=
  let (stretch, step) := gridScale w exponent
  let value := w.value * stretch
  let below := value / step
  let gapBelow := value - below * step
  let gapAbove := step - gapBelow
  match w.holds exponent below && 0 < below, w.holds exponent (below + 1) with
  | true, true =>
      if gapBelow < gapAbove || (gapBelow = gapAbove && below % 2 = 0) then some below
      else some (below + 1)
  | true, false => some below
  | false, true => some (below + 1)
  | false, false => none

/-- The window's value is below `10 ^ exponent`. -/
def Window.below (w : Window) (exponent : Int) : Bool :=
  let (stretch, step) := gridScale w exponent
  w.value * stretch < step

/-- The number of digits before the decimal point of a window's value: the least
`k` with value below `10 ^ k`.  The binary logarithm gives it up to two. -/
def Window.magnitude (w : Window) : Int :=
  let bits : Int := (Nat.log2 w.value : Int) - Nat.log2 w.den
  let guess := (bits * 30103).fdiv 100000
  if w.below (guess - 1) then guess - 1
  else if w.below guess then guess
  else if w.below (guess + 1) then guess + 1
  else guess + 2

/-- A decimal without trailing zeros among its digits.  The fuel is the number of
zeros that may be dropped. -/
def Decimal.strip : Nat → Decimal → Decimal
  | 0, d => d
  | fuel + 1, d =>
      if d.digits % 10 = 0 && 0 < d.digits then strip fuel ⟨d.digits / 10, d.exponent + 1⟩
      else d

/-- The first grid, from `count` digits upward, that has a point in the window. -/
def Window.shortestFrom (w : Window) (magnitude : Int) : Nat → Nat → Decimal
  | 0, _ => ⟨w.value / w.den, 0⟩
  | fuel + 1, count =>
      match w.gridPoint? (magnitude - count) with
      | some digits => Decimal.strip 18 ⟨digits, magnitude - count⟩
      | none => shortestFrom w magnitude fuel (count + 1)

/-- The shortest decimal of the absolute value of a finite nonzero double.
Seventeen digits always suffice. -/
def shortest (x : Float) : Decimal :=
  let w := window x
  w.shortestFrom w.magnitude 17 1

end Vivarium.Number
