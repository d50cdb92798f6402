import Vivarium.Number.Shortest

/-!
# Numbers in texts

A number appears in texts in three ways.  Messages show it *plainly*: every
digit in its place, no exponent, and no fraction for a whole number.  Data files
show it in *exchange* form, which keeps a fraction on whole numbers, so that it
is read back as a double, and changes to an exponent when the point would be far
away.  Tables show it *fixed*, rounded to a number of places.

Main definitions:

* `plain`, `exchange`: the shortest decimal of a double in the two layouts;
* `fixed`: the exact value rounded to a number of places, ties to even.
-/

namespace Vivarium.Number

/-- The decimal digits of a natural number. -/
def naturalText (n : Nat) : List Char := (Nat.toDigits 10 n)

/-- A sign in front of the digits of a negative number. -/
def signed (negative : Bool) (text : List Char) : String :=
  String.ofList (if negative then '-' :: text else text)

/-- The digits of a number with the point after the first `before` of them.
Zeros fill the gap between the digits and the point; digits after the point are
preceded by it. -/
def positional (digits : List Char) (before : Int) : List Char :=
  if before ≤ 0 then
    ['0', '.'] ++ List.replicate (-before).toNat '0' ++ digits
  else if digits.length ≤ before.toNat then
    digits ++ List.replicate (before.toNat - digits.length) '0'
  else
    digits.take before.toNat ++ '.' :: digits.drop before.toNat

/-- The text of a double that is not a finite number. -/
def nonFinite (x : Float) : String :=
  if x.isNaN then "NaN" else if isNegative x then "-inf" else "inf"

/-- A double with every digit in its place, without an exponent and without a
fraction on whole numbers. -/
def plain (x : Float) : String :=
  if !isFinite x then nonFinite x
  else if magnitude x = 0 then signed (isNegative x) ['0']
  else
    let d := shortest x
    let digits := naturalText d.digits
    signed (isNegative x) (positional digits (digits.length + d.exponent))

/-- Digits with a point after the first and an exponent of ten. -/
def scientific (digits : List Char) (power : Int) : List Char :=
  let mantissa := match digits with
    | first :: second :: rest => first :: '.' :: second :: rest
    | short => short
  mantissa ++ 'e' :: (if power < 0 then ['-'] else []) ++ naturalText power.natAbs

/-- A double as it stands in data files.  The point is written in place when at
most sixteen digits come before it and fewer than five zeros after it. -/
def exchange (x : Float) : String :=
  if !isFinite x then nonFinite x
  else if magnitude x = 0 then signed (isNegative x) ['0', '.', '0']
  else
    let d := shortest x
    let digits := naturalText d.digits
    let before : Int := digits.length + d.exponent
    signed (isNegative x) <|
      if 0 ≤ d.exponent && before ≤ 16 then positional digits before ++ ['.', '0']
      else if -5 < before && before ≤ 16 then positional digits before
      else scientific digits (before - 1)

/-- A fraction rounded to the nearest integer, a half going to the even one. -/
def nearestEven (num den : Nat) : Nat :=
  let below := num / den
  let twice := 2 * (num % den)
  if twice < den || (twice = den && below % 2 = 0) then below else below + 1

/-- The exact value of a double rounded to `places` digits after the point. -/
def fixed (places : Nat) (x : Float) : String :=
  if !isFinite x then nonFinite x
  else
    let (num, den) := (scaled x).fraction
    let units := nearestEven (num * Nat.pow 10 places) den
    let digits := naturalText units
    let padded := List.replicate (places + 1 - digits.length) '0' ++ digits
    let before := padded.length - places
    signed (isNegative x) <|
      if places = 0 then padded
      else padded.take before ++ '.' :: padded.drop before

end Vivarium.Number
