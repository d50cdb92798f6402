import Vivarium.Text.Blank
import Vivarium.Time.Instant

/-!
# Calendar dates

Records carry instants as dates with times and offsets from universal time, such
as `2024-01-01T00:00:00Z`.  Days are counted in the Gregorian calendar extended
in both directions; a cycle of four hundred years has 146097 days.  Years are
counted from March, so that a leap day is the last day of its year.

Reading allows blanks in front of each number, numbers of fewer digits, and a
blank in place of the `T`.  Writing always uses universal time.

Main definitions:

* `dayNumber`, `civilDate`: between dates and days since the beginning of 1970;
* `Instant.parse?`: the instant of a text;
* `Instant.render`: the written form.
-/

namespace Vivarium.Calendar

open Text (isBlank)

/-- A date. -/
structure Date where
  year : Int
  month : Nat
  day : Nat
  deriving Repr, DecidableEq

/-- The year has a leap day. -/
def isLeap (year : Int) : Bool := year % 4 = 0 && (year % 100 ≠ 0 || year % 400 = 0)

/-- The number of days of a month. -/
def daysInMonth (year : Int) (month : Nat) : Nat :=
  if month = 2 then (if isLeap year then 29 else 28)
  else if month = 4 || month = 6 || month = 9 || month = 11 then 30
  else 31

/-- The date exists and its year can be represented. -/
def Date.isValid (d : Date) : Bool :=
  -262143 ≤ d.year && d.year ≤ 262142 && 1 ≤ d.month && d.month ≤ 12 &&
    1 ≤ d.day && d.day ≤ daysInMonth d.year d.month

/-- The days from the beginning of 1970 to a date. -/
def dayNumber (d : Date) : Int :=
  let year := if d.month ≤ 2 then d.year - 1 else d.year
  let era := year.fdiv 400
  let yearOfEra := year.fmod 400
  let fromMarch : Int := (d.month + 9) % 12
  let dayOfYear := (153 * fromMarch + 2) / 5 + d.day - 1
  let dayOfEra := yearOfEra * 365 + yearOfEra / 4 - yearOfEra / 100 + dayOfYear
  era * 146097 + dayOfEra - 719468

/-- The date of a number of days from the beginning of 1970. -/
def civilDate (days : Int) : Date :=
  let shifted := days + 719468
  let era := shifted.fdiv 146097
  let dayOfEra := shifted.fmod 146097
  let yearOfEra :=
    (dayOfEra - dayOfEra / 1460 + dayOfEra / 36524 - dayOfEra / 146096) / 365
  let dayOfYear := dayOfEra - (365 * yearOfEra + yearOfEra / 4 - yearOfEra / 100)
  let fromMarch := (5 * dayOfYear + 2) / 153
  let day := dayOfYear - (153 * fromMarch + 2) / 5 + 1
  let month := if fromMarch < 10 then fromMarch + 3 else fromMarch - 9
  let year := yearOfEra + era * 400
  ⟨if month ≤ 2 then year + 1 else year, month.toNat, day.toNat⟩

/-! ## Reading -/

/-- The number of a run of digits. -/
def number (digits : List Char) : Nat := digits.foldl (fun n c => n * 10 + (c.toNat - 48)) 0

/-- A number of at most `most` digits, and the text behind it. -/
def digits? (most : Nat) (text : List Char) : Option (Nat × List Char) :=
  let digits := (text.take most).takeWhile Char.isDigit
  if digits.isEmpty then none else some (number digits, text.drop digits.length)

/-- A number of at most two digits with blanks in front of it. -/
def field? (text : List Char) : Option (Nat × List Char) :=
  digits? 2 (text.dropWhile isBlank)

/-- A year: four digits at most, or any number of digits behind a sign. -/
def year? (text : List Char) : Option (Int × List Char) :=
  match text.dropWhile isBlank with
  | '-' :: rest => (digits? rest.length rest).map fun (n, rest) => (-(n : Int), rest)
  | '+' :: rest => (digits? rest.length rest).map fun (n, rest) => ((n : Int), rest)
  | rest => (digits? 4 rest).map fun (n, rest) => ((n : Int), rest)

/-- The text behind a mark with blanks in front of it. -/
def behindMark? (mark : Char) (text : List Char) : Option (List Char) :=
  match text.dropWhile isBlank with
  | c :: rest => if c = mark then some rest else none
  | [] => none

/-- The nanoseconds of a fraction of a second: up to nine digits count.  Without
a point there are none. -/
def nanos? (text : List Char) : Option (Nat × List Char) :=
  match text with
  | '.' :: rest =>
      let digits := rest.takeWhile Char.isDigit
      if digits.isEmpty then none
      else
        let counted := digits.take 9
        some (number counted * Nat.pow 10 (9 - counted.length), rest.drop digits.length)
  | _ => some (0, text)

/-- The hours and minutes of an offset behind its sign, in seconds.  Colons and
blanks may stand between them. -/
def offsetAmount? (text : List Char) : Option (Int × List Char) :=
  match text with
  | h :: k :: rest =>
      match rest.dropWhile fun c => c = ':' || isBlank c with
      | m :: n :: after =>
          if [h, k, m, n].all Char.isDigit && m ≤ '5' then
            some ((number [h, k] * 3600 + number [m, n] * 60 : Nat), after)
          else none
      | _ => none
  | _ => none

/-- The offset from universal time in seconds. -/
def offset? (text : List Char) : Option (Int × List Char) :=
  match text with
  | 'Z' :: rest => some (0, rest)
  | 'z' :: rest => some (0, rest)
  | '+' :: rest => offsetAmount? rest
  | '-' :: rest => (offsetAmount? rest).map fun (n, rest) => (-n, rest)
  | '−' :: rest => (offsetAmount? rest).map fun (n, rest) => (-n, rest)
  | u :: t :: c :: rest =>
      if [u, t, c].map Char.toUpper = ['U', 'T', 'C'] then some (0, rest) else none
  | _ => none

/-- The instant of a local date and time at an offset from universal time.  The
sixtieth second of a minute is a leap second. -/
def instant? (d : Date) (hour minute second nanos : Nat) (offset : Int) : Option Instant :=
  if d.isValid && hour ≤ 23 && minute ≤ 59 && second ≤ 60 && offset.natAbs < 86400 then
    let whole := min second 59
    let extra := if second = 60 then 1000000000 else 0
    let seconds : Int :=
      dayNumber d * 86400 + hour * 3600 + minute * 60 + whole - offset
    let date := civilDate (seconds.fdiv 86400)
    if date.isValid then some ⟨seconds, nanos + extra⟩ else none
  else none

/-- The instant that a text denotes: date and time separated by a `T` or a blank,
and an offset behind the time. -/
def parse? (text : String) : Option Instant := do
  let (year, rest) ← year? text.toList
  let (month, rest) ← field? (← behindMark? '-' rest)
  let (day, rest) ← field? (← behindMark? '-' rest)
  let rest ← match rest with
    | 'T' :: rest => some rest
    | 't' :: rest => some rest
    | ' ' :: rest => some rest
    | _ => none
  let (hour, rest) ← field? rest
  let (minute, rest) ← field? (← behindMark? ':' rest)
  let (second, rest) ← field? (← behindMark? ':' rest)
  let (nanos, rest) ← nanos? rest
  let (offset, rest) ← offset? (rest.dropWhile isBlank)
  if rest.all isBlank then instant? ⟨year, month, day⟩ hour minute second nanos offset
  else none

/-! ## Writing -/

/-- A number with zeros in front of it up to a count of digits. -/
def padded (count n : Nat) : String :=
  let digits := Nat.toDigits 10 n
  String.ofList (List.replicate (count - digits.length) '0' ++ digits)

/-- A year: four digits, or a sign and at least four digits. -/
def renderYear (year : Int) : String :=
  if 0 ≤ year && year ≤ 9999 then padded 4 year.toNat
  else (if year < 0 then "-" else "+") ++ padded 4 year.natAbs

/-- A fraction of a second in three, six or nine digits, the fewest that are
exact; nothing for a whole second. -/
def renderFraction (nanos : Nat) : String :=
  if nanos = 0 then ""
  else if nanos % 1000000 = 0 then "." ++ padded 3 (nanos / 1000000)
  else if nanos % 1000 = 0 then "." ++ padded 6 (nanos / 1000)
  else "." ++ padded 9 nanos

/-- The written form of an instant, in universal time. -/
def render (t : Instant) : String :=
  let date := civilDate (t.seconds.fdiv 86400)
  let inDay := (t.seconds.fmod 86400).toNat
  let leap := t.nanos / 1000000000
  renderYear date.year ++ "-" ++ padded 2 date.month ++ "-" ++ padded 2 date.day ++ "T" ++
    padded 2 (inDay / 3600) ++ ":" ++ padded 2 (inDay % 3600 / 60) ++ ":" ++
    padded 2 (inDay % 60 + leap) ++ renderFraction (t.nanos % 1000000000) ++ "Z"

end Vivarium.Calendar
