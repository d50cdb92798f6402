/-!
# SHA-1

The digest that name-derived identifiers are cut from.  A message is padded to
whole blocks of sixty-four bytes, each block is expanded to a schedule of eighty
words, and eighty rounds mix the schedule into five registers.

Main definitions:

* `pad`: the message with its end marker and its length in bits;
* `schedule`: the eighty words of a block;
* `compress`: the registers after one more block;
* `digest`: the twenty bytes of the digest.
-/

namespace Vivarium.Sha1

/-- The five registers. -/
structure Registers where
  a : UInt32
  b : UInt32
  c : UInt32
  d : UInt32
  e : UInt32
  deriving Repr, DecidableEq

/-- The registers before the first block. -/
def initial : Registers :=
  ⟨0x67452301, 0xEFCDAB89, 0x98BADCFE, 0x10325476, 0xC3D2E1F0⟩

/-- A word rotated to the left; the amount is between 1 and 31. -/
def rotate (x : UInt32) (amount : UInt32) : UInt32 :=
  (x <<< amount) ||| (x >>> (32 - amount))

/-- The bytes of a number, most significant first. -/
def bigEndian (count n : Nat) : List UInt8 :=
  (List.range count).map fun i => UInt8.ofNat (n / Nat.pow 256 (count - 1 - i))

/-- A message behind which a single one bit, zeros and the length in bits follow,
so that the whole is a multiple of sixty-four bytes long. -/
def pad (message : List UInt8) : List UInt8 :=
  let zeros := (119 - message.length % 64) % 64
  message ++ 0x80 :: List.replicate zeros 0 ++ bigEndian 8 (8 * message.length)

/-- The big-endian words of a run of bytes. -/
def wordsOf : List UInt8 → List UInt32
  | a :: b :: c :: d :: rest =>
      ((a.toUInt32 <<< 24) ||| (b.toUInt32 <<< 16) ||| (c.toUInt32 <<< 8) ||| d.toUInt32) ::
        wordsOf rest
  | _ => []

/-- A schedule, latest word first, extended by a number of words. -/
def extend : Nat → List UInt32 → List UInt32
  | 0, latest => latest
  | count + 1, latest =>
      let mixed := latest.getD 2 0 ^^^ latest.getD 7 0 ^^^ latest.getD 13 0 ^^^ latest.getD 15 0
      extend count (rotate mixed 1 :: latest)

/-- The eighty words of a block, in order. -/
def schedule (block : List UInt32) : List UInt32 := (extend 64 block.reverse).reverse

/-- The function and the constant of a round. -/
def mix (round : Nat) (b c d : UInt32) : UInt32 × UInt32 :=
  if round < 20 then ((b &&& c) ||| (~~~b &&& d), 0x5A827999)
  else if round < 40 then (b ^^^ c ^^^ d, 0x6ED9EBA1)
  else if round < 60 then ((b &&& c) ||| (b &&& d) ||| (c &&& d), 0x8F1BBCDC)
  else (b ^^^ c ^^^ d, 0xCA62C1D6)

/-- The registers after one round with a word of the schedule. -/
def step (r : Registers) (round : Nat) (word : UInt32) : Registers :=
  let (f, k) := mix round r.b r.c r.d
  ⟨rotate r.a 5 + f + r.e + k + word, r.a, rotate r.b 30, r.c, r.d⟩

/-- The registers after the rounds of a block. -/
def compress (r : Registers) (block : List UInt32) : Registers :=
  let s := (schedule block).zipIdx.foldl (fun s word => step s word.2 word.1) r
  ⟨r.a + s.a, r.b + s.b, r.c + s.c, r.d + s.d, r.e + s.e⟩

/-- The registers after all blocks of a run of words. -/
def absorb (r : Registers) (words : List UInt32) : Registers :=
  if words.isEmpty then r
  else absorb (compress r (words.take 16)) (words.drop 16)
termination_by words.length
decreasing_by
  rename_i filled
  have : words.length ≠ 0 := by simpa [List.isEmpty_iff] using filled
  rw [List.length_drop]
  omega

/-- The digest of a message. -/
def digest (message : List UInt8) : List UInt8 :=
  let r := absorb initial (wordsOf (pad message))
  [r.a, r.b, r.c, r.d, r.e].flatMap fun word => bigEndian 4 word.toNat

end Vivarium.Sha1
