import Vivarium.Json.Basic
import Vivarium.Number.Numeral

/-!
# Reading JSON

A JSON text holds exactly one value, with blanks around it.  A number without
fraction and exponent is an integer if a machine word holds it, and the nearest
double otherwise; `-0` is a double, since no integer has a negative zero.  A
number beyond the greatest double is well formed and denotes nothing.

Main definitions:

* `stringTail?`: the rest of a string literal behind its opening quote;
* `number?`: the number that starts a text;
* `value?`, `items?`, `members?`: the recursive reading of a value, whose fuel
  is a bound on the nesting and the number of parts;
* `Json.parse?`: the value of a whole text.
-/

namespace Vivarium.Json

open Vivarium.Number
  (isFinite ofDecimal withSign digitsValue splitSign exponent? signBound wordBound)

/-- The blanks of JSON. -/
def isSpace (c : Char) : Bool := c = ' ' || c = '\n' || c = '\t' || c = '\r'

/-- A text without leading blanks. -/
def skip (text : List Char) : List Char := text.dropWhile isSpace

/-- The value of a hexadecimal digit. -/
def hexValue? (c : Char) : Option Nat :=
  if c.isDigit then some (c.toNat - 48)
  else if 'a' ≤ c && c ≤ 'f' then some (c.toNat - 87)
  else if 'A' ≤ c && c ≤ 'F' then some (c.toNat - 55)
  else none

/-- The number of four hexadecimal digits. -/
def unit16? (a b c d : Char) : Option Nat := do
  let a ← hexValue? a
  let b ← hexValue? b
  let c ← hexValue? c
  let d ← hexValue? d
  return ((a * 16 + b) * 16 + c) * 16 + d

/-- What the short escapes stand for. -/
def shortEscape? (c : Char) : Option Char :=
  match c with
  | '"' => some '"'
  | '\\' => some '\\'
  | '/' => some '/'
  | 'b' => some '\x08'
  | 'f' => some '\x0c'
  | 'n' => some '\n'
  | 'r' => some '\r'
  | 't' => some '\t'
  | _ => none

/-- The UTF-16 code units of a string literal behind its opening quote, and the
text behind its closing quote. -/
def stringUnits? : List Char → Option (List (Char ⊕ Nat) × List Char)
  | [] => none
  | '"' :: rest => some ([], rest)
  | '\\' :: 'u' :: a :: b :: c :: d :: rest => do
      let unit ← unit16? a b c d
      let (units, rest) ← stringUnits? rest
      return (.inr unit :: units, rest)
  | '\\' :: c :: rest => do
      let escaped ← shortEscape? c
      let (units, rest) ← stringUnits? rest
      return (.inl escaped :: units, rest)
  | c :: rest =>
      if c.toNat < 0x20 || c = '\\' then none
      else do
        let (units, rest) ← stringUnits? rest
        return (.inl c :: units, rest)

/-- The first half of a surrogate pair. -/
def isHighSurrogate (unit : Nat) : Bool := 0xD800 ≤ unit && unit ≤ 0xDBFF

/-- The second half of a surrogate pair. -/
def isLowSurrogate (unit : Nat) : Bool := 0xDC00 ≤ unit && unit ≤ 0xDFFF

/-- The characters of a sequence of code units.  Both halves of a surrogate pair
have to be there and have to be escapes. -/
def characters? : List (Char ⊕ Nat) → Option (List Char)
  | [] => some []
  | .inl c :: rest => (characters? rest).map (c :: ·)
  | .inr high :: .inr low :: rest =>
      if isHighSurrogate high then
        if isLowSurrogate low then
          (characters? rest).map
            (Char.ofNat (0x10000 + (high - 0xD800) * 0x400 + (low - 0xDC00)) :: ·)
        else none
      else if isLowSurrogate high then none
      else (characters? (.inr low :: rest)).map (Char.ofNat high :: ·)
  | .inr unit :: rest =>
      if isHighSurrogate unit || isLowSurrogate unit then none
      else (characters? rest).map (Char.ofNat unit :: ·)

/-- A string literal behind its opening quote: its text, if it denotes one, and
the text behind its closing quote. -/
def stringTail? (text : List Char) : Option (Option String × List Char) := do
  let (units, rest) ← stringUnits? text
  return ((characters? units).map String.ofList, rest)

/-- The digits of an integer part: a single zero, or digits without a leading
zero. -/
def integerDigits? (text : List Char) : Option (List Char × List Char) :=
  match text with
  | '0' :: rest =>
      if rest.head?.any Char.isDigit then none else some (['0'], rest)
  | _ =>
      let digits := text.takeWhile Char.isDigit
      if digits.isEmpty then none else some (digits, text.dropWhile Char.isDigit)

/-- The digits behind a point, which needs at least one; empty without a point. -/
def fractionDigits? (text : List Char) : Option (List Char × List Char) :=
  match text with
  | '.' :: rest =>
      let digits := rest.takeWhile Char.isDigit
      if digits.isEmpty then none else some (digits, rest.dropWhile Char.isDigit)
  | _ => some ([], text)

/-- The characters of an exponent, with its mark; empty without one. -/
def exponentText (text : List Char) : List Char :=
  match text with
  | mark :: sign :: rest =>
      if mark = 'e' || mark = 'E' then
        if sign = '+' || sign = '-' then mark :: sign :: rest.takeWhile Char.isDigit
        else mark :: (sign :: rest).takeWhile Char.isDigit
      else []
  | [mark] => if mark = 'e' || mark = 'E' then [mark] else []
  | [] => []

/-- The value of a string literal. -/
def ofText : Option String → Json
  | some s => .text s
  | none => .void

/-- The value of a literal that is rounded to a double. -/
def ofReal (x : Float) : Json := if isFinite x then .real x else .void

/-- A number without fraction and exponent. -/
def wholeNumber (negative : Bool) (n : Nat) : Json :=
  if negative then
    if 0 < n && n ≤ signBound then .int (-n) else ofReal (withSign true (ofDecimal n 0))
  else if n < wordBound then .int n
  else ofReal (ofDecimal n 0)

/-- The number that starts a text. -/
def number? (text : List Char) : Option (Json × List Char) := do
  let (negative, unsigned) := match text with
    | '-' :: rest => (true, rest)
    | _ => (false, text)
  let (whole, afterWhole) ← integerDigits? unsigned
  let (fraction, afterFraction) ← fractionDigits? afterWhole
  let mark := exponentText afterFraction
  let rest := afterFraction.drop mark.length
  let exponent ← exponent? mark
  if fraction.isEmpty && mark.isEmpty then
    return (wholeNumber negative (digitsValue whole), rest)
  else
    let digits := digitsValue (whole ++ fraction)
    return (ofReal (withSign negative (ofDecimal digits (exponent - fraction.length))), rest)

/-- A text behind a word that it has to start with. -/
def behind? (word : String) (text : List Char) : Option (List Char) :=
  if word.toList.isPrefixOf text then some (text.drop word.length) else none

mutual

/-- The value that starts a text, and the text behind it. -/
def value? : Nat → List Char → Option (Json × List Char)
  | 0, _ => none
  | fuel + 1, source =>
      match skip source with
      | '"' :: rest => (stringTail? rest).map fun (s, rest) => (ofText s, rest)
      | '\x5b' :: rest =>
          match skip rest with
          | '\x5d' :: rest => some (.array [], rest)
          | rest => (items? fuel rest).map fun (items, rest) => (.array items, rest)
      | '\x7b' :: rest =>
          match skip rest with
          | '\x7d' :: rest => some (.object [], rest)
          | rest => (members? fuel rest).map fun (members, rest) => (.object members, rest)
      | 'n' :: rest => (behind? "ull" rest).map fun rest => (.null, rest)
      | 't' :: rest => (behind? "rue" rest).map fun rest => (.bool true, rest)
      | 'f' :: rest => (behind? "alse" rest).map fun rest => (.bool false, rest)
      | rest => number? rest

/-- The items of an array up to its closing bracket. -/
def items? : Nat → List Char → Option (List Json × List Char)
  | 0, _ => none
  | fuel + 1, source =>
      match value? fuel source with
      | none => none
      | some (item, rest) =>
          match skip rest with
          | ',' :: rest => (items? fuel rest).map fun (items, rest) => (item :: items, rest)
          | '\x5d' :: rest => some ([item], rest)
          | _ => none

/-- The members of an object up to its closing brace. -/
def members? : Nat → List Char → Option (List (Option String × Json) × List Char)
  | 0, _ => none
  | fuel + 1, source =>
      match skip source with
      | '"' :: rest =>
          match stringTail? rest with
          | none => none
          | some (key, rest) =>
              match skip rest with
              | ':' :: rest =>
                  match value? fuel rest with
                  | none => none
                  | some (item, rest) =>
                      match skip rest with
                      | ',' :: rest =>
                          (members? fuel rest).map fun (members, rest) =>
                            ((key, item) :: members, rest)
                      | '\x7d' :: rest => some ([(key, item)], rest)
                      | _ => none
              | _ => none
      | _ => none

end

/-- The value of a text.  Every call of the reader but those for the parts of an
array takes a character, so twice the length is fuel enough. -/
def parse? (text : String) : Option Json :=
  let characters := text.toList
  match value? (2 * characters.length + 2) characters with
  | some (value, rest) => if (skip rest).isEmpty then some value else none
  | none => none

end Vivarium.Json
