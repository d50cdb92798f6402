import Vivarium.Time.Span

/-!
# Instants

An instant counts seconds from the beginning of 1970 in universal time.  Its
nanoseconds may reach a second or more: that is how a leap second is kept, which
has the number of the second before it.

Main definitions:

* `Instant`: a moment in universal time;
* `ofMillis`, `toMillis`: milliseconds from the beginning of 1970;
* `since`: the nanoseconds from one instant to another;
* `Clock`, `Readings`: a clock that can be stopped, and what a clock shows again and again.
-/

namespace Vivarium

/-- A moment in universal time. -/
structure Instant where
  seconds : Int
  nanos : Nat
  deriving Repr, DecidableEq

namespace Instant

/-- The beginning of 1970. -/
def epoch : Instant := ⟨0, 0⟩

instance : Inhabited Instant := ⟨epoch⟩

/-- The moment some milliseconds after the beginning of 1970. -/
def ofMillis (ms : Int) : Instant := ⟨ms.fdiv 1000, (ms.fmod 1000).toNat * 1000000⟩

/-- The whole milliseconds since the beginning of 1970. -/
def toMillis (t : Instant) : Int := t.seconds * 1000 + t.nanos / 1000000

/-- The nanoseconds since the beginning of 1970. -/
def totalNanos (t : Instant) : Int := t.seconds * 1000000000 + t.nanos

/-- The nanoseconds from an earlier instant to a later one. -/
def since (later earlier : Instant) : Int := later.totalNanos - earlier.totalNanos

/-- The moment of a number of nanoseconds since the beginning of 1970. -/
def ofNanos (nanos : Int) : Instant :=
  ⟨nanos.fdiv 1000000000, (nanos.fmod 1000000000).toNat⟩

/-- The moment some milliseconds later. -/
def addMillis (t : Instant) (ms : Int) : Instant := ofNanos (t.totalNanos + ms * 1000000)

/-- The moment at the end of a span that starts at an instant. -/
def add (t : Instant) (s : Span) : Instant := ofNanos (t.totalNanos + s.totalNanos)

theorem since_self (t : Instant) : t.since t = 0 := by simp [since]

end Instant

/-- A clock stands still at an instant, or it runs with the time of the world and
then shows no time of its own. -/
structure Clock where
  frozen : Option Instant
  deriving Repr, DecidableEq

namespace Clock

/-- A clock that runs. -/
def running : Clock := ⟨none⟩

/-- The clock standing still at an instant. -/
def freeze (_c : Clock) (t : Instant) : Clock := ⟨some t⟩

/-- The clock moved by some milliseconds; a running clock is not moved. -/
def advance (c : Clock) (ms : Int) : Clock := ⟨c.frozen.map (·.addMillis ms)⟩

/-- The clock stands still. -/
def isFrozen (c : Clock) : Bool := c.frozen.isSome

end Clock

/-- What a clock shows, one reading after the other. -/
structure Readings where
  reading : Nat → Instant

namespace Readings

/-- A clock that stands still shows the same each time. -/
instance : Coe Instant Readings := ⟨fun now => ⟨fun _ => now⟩⟩

/-- A clock that goes on by some nanoseconds from one reading to the next. -/
def every (start : Instant) (nanos : Nat) : Readings :=
  ⟨fun count => Instant.ofNanos (start.totalNanos + count * nanos)⟩

/-- A number of readings, from one of them on. -/
def take (c : Readings) (first count : Nat) : List Instant :=
  (List.range' first count).map c.reading

@[simp]
theorem length_take (c : Readings) (first count : Nat) : (c.take first count).length = count := by
  rw [take, List.length_map, List.length_range']

end Readings

end Vivarium
