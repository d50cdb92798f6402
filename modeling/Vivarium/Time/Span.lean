import Vivarium.Number.Word
import Vivarium.Text.Blank

/-!
# Spans of time

A span is a nonnegative amount of time in seconds and nanoseconds.  It is
written as a sequence of amounts with units, such as `1h 30m` or `1.5s`; a month
counts as 30.44 days and a year as 365.25 days.  An amount may have a fraction if
nothing of it is lost: of hours and longer units a fraction has to come out as
whole seconds, of shorter ones as whole nanoseconds.

Main definitions:

* `Span`: an amount of time;
* `unit?`: the unit of a name, with what its wholes and its fractions measure;
* `Amount`: a number of units, perhaps with a fraction;
* `Span.parse?`: the span of a text, the amounts added up;
* `Span.render`: the written form, from years down to nanoseconds.
-/

namespace Vivarium

open Text (isBlank)

/-- An amount of time.  The nanoseconds are those beyond the whole seconds. -/
structure Span where
  seconds : Nat
  nanos : Nat
  deriving Repr, DecidableEq

namespace Span

/-- A whole number of milliseconds. -/
def ofMillis (ms : Nat) : Span := ⟨ms / 1000, ms % 1000 * 1000000⟩

/-- A whole number of seconds. -/
def ofSeconds (s : Nat) : Span := ⟨s, 0⟩

/-- The amount in nanoseconds. -/
def totalNanos (s : Span) : Nat := s.seconds * 1000000000 + s.nanos

/-- The span of no length. -/
def isZero (s : Span) : Bool := s.totalNanos = 0

/-! ## Units and amounts -/

/-- One of a unit, in seconds or in nanoseconds. -/
structure Scale where
  seconds : Nat
  nanos : Nat
  deriving Repr, DecidableEq

/-- A unit of time: its names, what one of it is, and what a fraction is a part
of.  A nanosecond has no fractions. -/
structure TimeUnit where
  names : List String
  whole : Scale
  divided : Option Scale
  deriving Repr, DecidableEq

/-- The units.  Minutes and seconds are counted in seconds, and divided into
nanoseconds. -/
def units : List TimeUnit :=
  [⟨["nanos", "nsec", "ns"], ⟨0, 1⟩, none⟩,
   ⟨["usec", "us", "µs"], ⟨0, 1000⟩, some ⟨0, 1000⟩⟩,
   ⟨["millis", "msec", "ms"], ⟨0, 1000000⟩, some ⟨0, 1000000⟩⟩,
   ⟨["seconds", "second", "secs", "sec", "s"], ⟨1, 0⟩, some ⟨0, 1000000000⟩⟩,
   ⟨["minutes", "minute", "min", "mins", "m"], ⟨60, 0⟩, some ⟨0, 60000000000⟩⟩,
   ⟨["hours", "hour", "hr", "hrs", "h"], ⟨3600, 0⟩, some ⟨3600, 0⟩⟩,
   ⟨["days", "day", "d"], ⟨86400, 0⟩, some ⟨86400, 0⟩⟩,
   ⟨["weeks", "week", "wk", "wks", "w"], ⟨604800, 0⟩, some ⟨604800, 0⟩⟩,
   ⟨["months", "month", "M"], ⟨2630016, 0⟩, some ⟨2630016, 0⟩⟩,
   ⟨["years", "year", "yr", "yrs", "y"], ⟨31557600, 0⟩, some ⟨31557600, 0⟩⟩]

/-- The unit of a name. -/
def unit? (name : String) : Option TimeUnit := units.find? fun u => u.names.contains name

/-- A number that a machine word holds. -/
def word? (n : Nat) : Option Nat := if n < Number.wordBound then some n else none

/-- A fraction in decimal notation, by its digits and the power of ten below. -/
structure Fraction where
  numerator : Nat
  denominator : Nat
  deriving Repr, DecidableEq

/-- A number of units, perhaps with a fraction. -/
structure Amount where
  whole : Nat
  fraction : Option Fraction
  deriving Repr, DecidableEq

/-- The product of a number and a measure, if a machine word holds it. -/
def times? (n measure : Nat) : Option Nat := word? (n * measure)

/-- The part of a measure that a fraction stands for, if it is a whole number. -/
def Fraction.of? (f : Fraction) (measure : Nat) : Option Nat := do
  let product ← times? f.numerator measure
  if product % f.denominator = 0 then some (product / f.denominator) else none

/-- A span with seconds and nanoseconds added, as long as every number on the way
fits into a machine word. -/
def plus? (s : Span) (seconds nanos : Nat) : Option Span := do
  let nanos ← word? (s.nanos + nanos)
  let seconds ← word? (s.seconds + seconds + nanos / 1000000000)
  return ⟨seconds, nanos % 1000000000⟩

/-- A span with an amount of some unit added. -/
def add? (s : Span) (amount : Amount) (unit : TimeUnit) : Option Span := do
  let s ← s.plus? (← times? amount.whole unit.whole.seconds)
    (← times? amount.whole unit.whole.nanos)
  match amount.fraction with
  | none => return s
  | some f =>
      let divided ← unit.divided
      s.plus? (← f.of? divided.seconds) (← f.of? divided.nanos)

/-! ## Reading -/

/-- The digits of a number, blanks between them left out, and what follows. -/
def spacedDigits : List Char → List Char × List Char
  | [] => ([], [])
  | c :: rest =>
      if c.isDigit then
        let (digits, after) := spacedDigits rest
        (c :: digits, after)
      else if isBlank c then spacedDigits rest
      else ([], c :: rest)

/-- The number of a run of digits, if a machine word holds it. -/
def number? (digits : List Char) : Option Nat :=
  word? (digits.foldl (fun n c => n * 10 + (c.toNat - 48)) 0)

/-- The fraction whose digits follow a point.  There is at least one, and a machine
word holds the power of ten below them. -/
def fraction? (digits : List Char) : Option Fraction := do
  let numerator ← number? digits
  let denominator ← word? (Nat.pow 10 digits.length)
  if digits.isEmpty then none else some ⟨numerator, denominator⟩

/-- The amount that starts a text, and what follows. -/
def amount? (text : List Char) : Option (Amount × List Char) := do
  let (digits, rest) := spacedDigits text
  let whole ← number? digits
  match rest with
  | '.' :: rest =>
      let (digits, rest) := spacedDigits rest
      return (⟨whole, some (← fraction? digits)⟩, rest)
  | _ => return (⟨whole, none⟩, rest)

/-- A letter of a unit's name. -/
def isUnitLetter (c : Char) : Bool := c.isAlpha || c = 'µ'

/-- A span with all amounts of a text added.  Every amount starts with a digit and
needs a unit; behind the unit comes a blank, the next amount, or the end.  The
fuel bounds the number of amounts. -/
def addAll? (s : Span) : Nat → List Char → Option Span
  | 0, _ => none
  | fuel + 1, text =>
      match text.dropWhile isBlank with
      | [] => some s
      | c :: rest =>
          if !c.isDigit then none
          else do
            let (amount, behindAmount) ← amount? (c :: rest)
            let name := behindAmount.takeWhile isUnitLetter
            let after := behindAmount.dropWhile isUnitLetter
            let next ← s.add? amount (← unit? (String.ofList name))
            if after.head?.all fun c => isBlank c || c.isDigit then addAll? next fuel after
            else none

/-- The span of a text, which holds at least one amount.  Only a lone zero needs no
unit. -/
def parse? (text : String) : Option Span :=
  let characters := text.toList
  if characters = ['0'] then some ⟨0, 0⟩
  else if characters.all isBlank then none
  else addAll? ⟨0, 0⟩ (characters.length + 1) characters

/-! ## Writing -/

/-- An amount with its unit, unless it is zero. -/
def part (amount : Nat) (unit : String) : List String :=
  if amount = 0 then [] else [toString amount ++ unit]

/-- The name of a unit for an amount. -/
def plural (amount : Nat) (unit : String) : String := if amount = 1 then unit else unit ++ "s"

/-- The written form: the amounts from years down to nanoseconds that are not
zero, separated by blanks. -/
def render (s : Span) : String :=
  let years := s.seconds / 31557600
  let inYear := s.seconds % 31557600
  let months := inYear / 2630016
  let inMonth := inYear % 2630016
  let days := inMonth / 86400
  let inDay := inMonth % 86400
  let parts :=
    part years (plural years "year") ++ part months (plural months "month") ++
      part days (plural days "day") ++ part (inDay / 3600) "h" ++
      part (inDay % 3600 / 60) "m" ++ part (inDay % 60) "s" ++
      part (s.nanos / 1000000) "ms" ++ part (s.nanos / 1000 % 1000) "us" ++
      part (s.nanos % 1000) "ns"
  if parts.isEmpty then "0s" else " ".intercalate parts

example : parse? "1h 30m" = some ⟨5400, 0⟩ := by decide +kernel

example : parse? "1 .5 0s" = some ⟨1, 500000000⟩ := by decide +kernel

example : parse? "0.3333d" = none := by decide +kernel

example : render ⟨90, 5000000⟩ = "1m 30s 5ms" := by decide +kernel

end Span

end Vivarium
