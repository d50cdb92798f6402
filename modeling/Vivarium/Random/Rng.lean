import Vivarium.Random.ChaCha

/-!
# Random draws

Every engine owns one random stream, and every random decision takes words from
its front.  A draw is a function of the stream that returns its result together
with the rest of the stream, so a run is determined by its seed.

Two loops refuse what they come to until something fits: that for an index refuses
words, and that for a double lowers a scale.  Neither has a bound by itself.  Both
have fuel here, far more than any stream that is met with would use up.

Main definitions:

* `Rng`, `Rng.ofSeed`: the stream of a seed;
* `Draw`: a random result;
* `word32`, `word64`, `unit`: the basic draws;
* `below64`, `below32`: uniform indexes;
* `symmetric`: a uniform double between `-bound` and `bound`;
* `choose`, `bytes`: a member of a list and a run of bytes.
-/

namespace Vivarium

/-- A random stream: the words of the current block that are still to be drawn,
and the key and number of the block after it. -/
structure Rng where
  key : ChaCha.Key
  number : UInt64
  pending : List UInt32
  deriving Repr, DecidableEq

namespace Rng

/-- The generator of key words, advanced by one step. -/
def seedStep (s : UInt64) : UInt64 := s * 6364136223846793005 + 11634580027462260723

/-- A word rotated to the right; the amount is below 32. -/
def rotateRight (x amount : UInt32) : UInt32 :=
  if amount = 0 then x else (x >>> amount) ||| (x <<< (32 - amount))

/-- The key word of a state of the seed generator. -/
def seedWord (s : UInt64) : UInt32 :=
  rotateRight (((s >>> 18) ^^^ s) >>> 27).toUInt32 (s >>> 59).toUInt32

/-- The states of the seed generator behind a seed. -/
def seedStates : Nat → UInt64 → List UInt64
  | 0, _ => []
  | count + 1, s => seedStep s :: seedStates count (seedStep s)

/-- The key grown from a seed. -/
def keyOfSeed (seed : UInt64) : ChaCha.Key :=
  let w := (seedStates 8 seed).map seedWord
  ⟨⟨w.getD 0 0, w.getD 1 0, w.getD 2 0, w.getD 3 0⟩,
    ⟨w.getD 4 0, w.getD 5 0, w.getD 6 0, w.getD 7 0⟩⟩

/-- The stream of a seed, from its first word on. -/
def ofSeed (seed : UInt64) : Rng := ⟨keyOfSeed seed, 0, []⟩

end Rng

/-- A result that depends on the front of a random stream and leaves the rest. -/
abbrev Draw (α : Type) := StateM Rng α

namespace Draw

/-- The next word of the stream. -/
def word32 : Draw UInt32 := fun rng =>
  match rng.pending with
  | word :: rest => (word, { rng with pending := rest })
  | [] =>
      match ChaCha.block rng.key rng.number with
      | word :: rest => (word, ⟨rng.key, rng.number + 1, rest⟩)
      | [] => (0, rng)

/-- The next two words, the first being the low half. -/
def word64 : Draw UInt64 := do
  let low ← word32
  let high ← word32
  return (high.toUInt64 <<< 32) ||| low.toUInt64

/-- A uniform double of the unit interval, one excluded. -/
def unit : Draw Float := do
  let word ← word64
  return (word >>> 11).toFloat / 9007199254740992.0

/-- Draws words of `size` bits until one falls into the part of the range that is
spread evenly over `count` values, and returns the value.  The fuel bounds the
number of words, which by itself has no bound; a word is refused with a chance of
less than one half. -/
def accept (size count : Nat) (next : Draw Nat) : Nat → Draw Nat
  | 0 => return 0
  | fuel + 1 => do
      let zone := count * Nat.pow 2 (size - 1 - Nat.log2 count) - 1
      let product := (← next) * count
      if product % Nat.pow 2 size ≤ zone || fuel = 0 then return product / Nat.pow 2 size
      else accept size count next fuel

/-- The number of words after which a draw settles for the last one.  It stands for a
loop without end: the draw differs from that on streams alone of which as many words
in a row are refused. -/
def patience : Nat := 4096

/-- A uniform number below `count`, which is positive, from words of 64 bits. -/
def below64 (count : Nat) : Draw Nat :=
  accept 64 count ((·.toNat) <$> word64) patience

/-- A uniform number below `count`, which is positive, from words of 32 bits. -/
def below32 (count : Nat) : Draw Nat :=
  accept 32 count ((·.toNat) <$> word32) patience

/-- The greatest fraction that a draw of 52 bits can give. -/
def greatestFraction : Float := 1.0 - Float.ofBits 0x3CB0000000000000

/-- The positive double just below another one. -/
def nextBelow (x : Float) : Float := Float.ofBits (x.toBits - 1)

/-- A scale lowered until the greatest fraction does not lead beyond `high`.  The
fuel bounds the number of steps, which by itself has no bound. -/
def fitScale (low high : Float) : Nat → Float → Float
  | 0, scale => scale
  | fuel + 1, scale =>
      if high < scale * greatestFraction + low then fitScale low high fuel (nextBelow scale)
      else scale

/-- A uniform double between two bounds, both included. -/
def between (low high : Float) : Draw Float := do
  let scale := fitScale low high 64 ((high - low) / greatestFraction)
  let word ← word64
  let fraction := (word >>> 12).toFloat / 4503599627370496.0
  return fraction * scale + low

/-- A uniform double between `-bound` and `bound`. -/
def symmetric (bound : Float) : Draw Float := between (-bound) bound

/-- A uniform member of a list.  An empty list has none and draws nothing; a list
of one member still draws. -/
def choose (items : List α) : Draw (Option α) :=
  if items.isEmpty then return none
  else do
    let index ← below32 items.length
    return items[index]?

/-- The bytes of a word, least significant first. -/
def littleEndian (word : UInt32) : List UInt8 :=
  [word.toUInt8, (word >>> 8).toUInt8, (word >>> 16).toUInt8, (word >>> 24).toUInt8]

/-- The bytes of the next words, one after the other. -/
def wordBytes : Nat → Draw (List UInt8)
  | 0 => return []
  | count + 1 => do
      let word ← word32
      let rest ← wordBytes count
      return littleEndian word ++ rest

/-- A number of bytes.  What is left of the last word is dropped. -/
def bytes (count : Nat) : Draw (List UInt8) := do
  let drawn ← wordBytes ((count + 3) / 4)
  return drawn.take count

end Draw

end Vivarium
