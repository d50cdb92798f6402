import Vivarium.Number.Binary64

/-!
# Reading a double

A numeral is an optional sign followed by `inf`, `infinity` or `nan` in any case,
or by digits with at most one point and an optional exponent.  Digits may be
missing on one side of the point.  The value is the double nearest to the exact
decimal; a decimal beyond the greatest double is an infinity.

Main definitions:

* `ofDecimal`: the double nearest to `digits * 10 ^ exponent`;
* `Numeral`: the parts of a decimal text;
* `read?`: the double that a text denotes.
-/

namespace Vivarium.Number

/-- Positive infinity. -/
def infinity : Float := Float.ofBits 0x7FF0000000000000

/-- Not a number. -/
def nan : Float := Float.ofBits 0x7FF8000000000000

/-- The double nearest to `digits * 10 ^ exponent`.  A decimal of more than 310
digits before the point is beyond every double and one of more than 400 zeros
after it is below every double, so that no huge power has to be computed. -/
def ofDecimal (digits : Nat) (exponent : Int) : Float :=
  let size : Int := (Nat.toDigits 10 digits).length + exponent
  if digits = 0 then 0.0
  else if 310 < size then infinity
  else if size < -400 then 0.0
  else Float.ofScientific digits (exponent < 0) exponent.natAbs

/-- A number with a sign. -/
def withSign (negative : Bool) (x : Float) : Float := if negative then -x else x

/-- The value of a run of decimal digits. -/
def digitsValue (digits : List Char) : Nat :=
  digits.foldl (fun value c => value * 10 + (c.toNat - 48)) 0

/-- The sign of a text and what follows it. -/
def splitSign : List Char → Bool × List Char
  | '-' :: rest => (true, rest)
  | '+' :: rest => (false, rest)
  | text => (false, text)

/-- The parts of a decimal text: digits before and after the point, and the
exponent. -/
structure Numeral where
  whole : List Char
  fraction : List Char
  exponent : Int
  deriving Repr

/-- The exponent of a text that starts with its mark, which needs a digit. -/
def exponent? : List Char → Option Int
  | [] => some 0
  | mark :: rest =>
      if mark = 'e' || mark = 'E' then
        let (negative, digits) := splitSign rest
        if digits.isEmpty || !digits.all Char.isDigit then none
        else some (if negative then -(digitsValue digits : Int) else digitsValue digits)
      else none

/-- The parts of an unsigned decimal text, if it is one. -/
def Numeral.ofText? (text : List Char) : Option Numeral :=
  let whole := text.takeWhile Char.isDigit
  let (fraction, rest) := match text.dropWhile Char.isDigit with
    | '.' :: after => (after.takeWhile Char.isDigit, after.dropWhile Char.isDigit)
    | after => ([], after)
  if whole.isEmpty && fraction.isEmpty then none
  else (exponent? rest).map fun exponent => ⟨whole, fraction, exponent⟩

/-- The value of a decimal text. -/
def Numeral.value (n : Numeral) : Float :=
  ofDecimal (digitsValue (n.whole ++ n.fraction)) (n.exponent - n.fraction.length)

/-- The double that an unsigned text denotes. -/
def readUnsigned? (text : List Char) : Option Float :=
  let lower := text.map Char.toLower
  if lower = "inf".toList || lower = "infinity".toList then some infinity
  else if lower = "nan".toList then some nan
  else (Numeral.ofText? text).map Numeral.value

/-- The double that a text denotes. -/
def read? (text : List Char) : Option Float :=
  let (negative, rest) := splitSign text
  (readUnsigned? rest).map (withSign negative)

end Vivarium.Number
