/-!
# The ChaCha block function

Random words come from ChaCha with eight rounds.  A block is a four by four
matrix of words: a constant row, two key rows, and a row with the block number.
Eight rounds mix the matrix, first down its columns and then along its
diagonals, and the matrix from before is added.

The four rows are kept as lanes, so that one round works on all four columns at
once, and the diagonals become columns when the rows are turned by one, two and
three places.

Main definitions:

* `Lanes`: a row of four words;
* `Matrix`, `Matrix.round`, `Matrix.doubleRound`: the mixing;
* `Key`, `block`: the sixteen words of a numbered block.
-/

namespace Vivarium.ChaCha

/-- Four words side by side. -/
structure Lanes where
  w0 : UInt32
  w1 : UInt32
  w2 : UInt32
  w3 : UInt32
  deriving Repr, DecidableEq

namespace Lanes

/-- An operation on each lane of two rows. -/
def zipWith (f : UInt32 → UInt32 → UInt32) (x y : Lanes) : Lanes :=
  ⟨f x.w0 y.w0, f x.w1 y.w1, f x.w2 y.w2, f x.w3 y.w3⟩

/-- An operation on each lane of a row. -/
def map (f : UInt32 → UInt32) (x : Lanes) : Lanes := ⟨f x.w0, f x.w1, f x.w2, f x.w3⟩

/-- The row with its first word moved to the end. -/
def turn (x : Lanes) : Lanes := ⟨x.w1, x.w2, x.w3, x.w0⟩

/-- The words of a row. -/
def toList (x : Lanes) : List UInt32 := [x.w0, x.w1, x.w2, x.w3]

/-- The sum of each pair of lanes, modulo the word size. -/
def add (x y : Lanes) : Lanes := zipWith (· + ·) x y

/-- The exclusive or of each pair of lanes, rotated to the left. -/
def xorRotate (amount : UInt32) (x y : Lanes) : Lanes :=
  (zipWith (· ^^^ ·) x y).map fun w => (w <<< amount) ||| (w >>> (32 - amount))

end Lanes

/-- Sixteen words in four rows. -/
structure Matrix where
  a : Lanes
  b : Lanes
  c : Lanes
  d : Lanes
  deriving Repr, DecidableEq

namespace Matrix

/-- The quarter round on all four columns. -/
def round (m : Matrix) : Matrix :=
  let a := m.a.add m.b
  let d := Lanes.xorRotate 16 m.d a
  let c := m.c.add d
  let b := Lanes.xorRotate 12 m.b c
  let a := a.add b
  let d := Lanes.xorRotate 8 d a
  let c := c.add d
  let b := Lanes.xorRotate 7 b c
  ⟨a, b, c, d⟩

/-- The matrix whose columns are the diagonals of another. -/
def diagonals (m : Matrix) : Matrix := ⟨m.a, m.b.turn, m.c.turn.turn, m.d.turn.turn.turn⟩

/-- The inverse of `diagonals`. -/
def fromDiagonals (m : Matrix) : Matrix := ⟨m.a, m.b.turn.turn.turn, m.c.turn.turn, m.d.turn⟩

/-- A round down the columns and one along the diagonals. -/
def doubleRound (m : Matrix) : Matrix := m.round.diagonals.round.fromDiagonals

/-- Any number of double rounds. -/
def mix : Nat → Matrix → Matrix
  | 0, m => m
  | count + 1, m => mix count m.doubleRound

/-- The sum of two matrices. -/
def add (m n : Matrix) : Matrix := ⟨m.a.add n.a, m.b.add n.b, m.c.add n.c, m.d.add n.d⟩

/-- The words row by row. -/
def toList (m : Matrix) : List UInt32 :=
  m.a.toList ++ m.b.toList ++ m.c.toList ++ m.d.toList

end Matrix

/-- A key of eight words. -/
structure Key where
  first : Lanes
  second : Lanes
  deriving Repr, DecidableEq

/-- The first row of every block. -/
def constants : Lanes := ⟨0x61707865, 0x3320646e, 0x79622d32, 0x6b206574⟩

/-- The matrix of a numbered block before mixing. -/
def input (key : Key) (number : UInt64) : Matrix :=
  ⟨constants, key.first, key.second,
    ⟨number.toUInt32, (number >>> 32).toUInt32, 0, 0⟩⟩

/-- The sixteen words of a numbered block. -/
def block (key : Key) (number : UInt64) : List UInt32 :=
  let start := input key number
  ((start.mix 4).add start).toList

end Vivarium.ChaCha
