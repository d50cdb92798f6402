import Vivarium.Digest.Sha1
import Vivarium.Directory
import Vivarium.Text.Quoted

/-!
# Identifiers

Organisms and events are identified by 128-bit numbers.  An identifier is either
derived from a name, so that the same name always has the same identifier, or
drawn at random.  Both kinds carry their version in four fixed bits and a
variant in two.

Main definitions:

* `Uuid`: an identifier, ordered as a number;
* `Uuid.ofName`: the identifier of a name within a namespace;
* `Uuid.ofRandom`: the identifier made of random bits;
* `Uuid.render`, `Uuid.parse?`: the written form and its variants.
-/

namespace Vivarium

/-- A 128-bit identifier. -/
structure Uuid where
  bits : BitVec 128
  deriving DecidableEq, Repr

namespace Uuid

instance : LT Uuid := ⟨fun a b => a.bits < b.bits⟩

instance : DecidableLT Uuid := fun a b => inferInstanceAs (Decidable (a.bits < b.bits))

instance : KeyOrder Uuid where
  less_trans first second := Nat.lt_trans first second
  eq_of_not_less {a b} notLess notGreater := by
    cases a
    cases b
    exact congrArg Uuid.mk
      (BitVec.le_antisymm (BitVec.not_lt.mp notGreater) (BitVec.not_lt.mp notLess))

protected theorem lt_irrefl (id : Uuid) : ¬id < id := BitVec.lt_irrefl id.bits

instance : Inhabited Uuid := ⟨⟨0⟩⟩

/-- The identifier with the given sixteen bytes, most significant first. -/
def ofBytes (bytes : List UInt8) : Uuid :=
  ⟨BitVec.ofNat 128 (bytes.foldl (fun n byte => n * 256 + byte.toNat) 0)⟩

/-- The sixteen bytes of an identifier. -/
def toBytes (id : Uuid) : List UInt8 := Sha1.bigEndian 16 id.bits.toNat

/-- A number with the version and the variant of an identifier put into the bits
reserved for them. -/
def withVersion (version : Nat) (n : Nat) : Uuid :=
  let clear : BitVec 128 := ~~~((0xF000 <<< 64) ||| (0xC000 <<< 48))
  ⟨(BitVec.ofNat 128 n &&& clear) ||| (BitVec.ofNat 128 (version * 0x1000) <<< 64) |||
    (0x8000 <<< 48)⟩

/-- The identifier of a name within a namespace. -/
def ofName (space : Uuid) (name : String) : Uuid :=
  let digest := Sha1.digest (space.toBytes ++ name.toUTF8.toList)
  withVersion 5 (ofBytes (digest.take 16)).bits.toNat

/-- The identifier made of random bits. -/
def ofRandom (n : Nat) : Uuid := withVersion 4 n

/-- A number in hexadecimal with a fixed count of digits. -/
def paddedHex (count n : Nat) : List Char :=
  (List.range count).map fun i => Text.hexDigit (n / Nat.pow 16 (count - 1 - i) % 16)

/-- The written form: five groups of hexadecimal digits with hyphens between. -/
def render (id : Uuid) : String :=
  let digits := paddedHex 32 id.bits.toNat
  String.ofList (digits.take 8 ++ '-' :: (digits.drop 8).take 4 ++ '-' ::
    (digits.drop 12).take 4 ++ '-' :: (digits.drop 16).take 4 ++ '-' :: digits.drop 20)

/-- The value of a hexadecimal digit in either case. -/
def digitValue? (c : Char) : Option Nat :=
  if c.isDigit then some (c.toNat - 48)
  else if 'a' ≤ c && c ≤ 'f' then some (c.toNat - 87)
  else if 'A' ≤ c && c ≤ 'F' then some (c.toNat - 55)
  else none

/-- The number of a run of hexadecimal digits. -/
def hexNumber? (digits : List Char) : Option Nat :=
  digits.foldlM (fun n c => (digitValue? c).map (n * 16 + ·)) 0

/-- The digits of the hyphenated form. -/
def withoutHyphens? (text : List Char) : Option (List Char) :=
  let groups := [text.take 8, (text.drop 9).take 4, (text.drop 14).take 4,
    (text.drop 19).take 4, text.drop 24]
  if text.length = 36 && [8, 13, 18, 23].all fun i => text[i]? = some '-' then
    some groups.flatten
  else none

/-- What stands in front of an identifier that is written as a resource name. -/
def marker : List Char := "urn:uuid:".toList

/-- The text starts with the marker, in either case of letters. -/
def isMarked (text : List Char) : Bool := marker.isPrefixOf (text.map Char.toLower)

/-- The digits of a written form: thirty-two digits, the hyphenated form, or the
hyphenated form in braces or behind `urn:uuid:`. -/
def digits? (text : List Char) : Option (List Char) :=
  if text.length = 32 then some text
  else if text.length = 38 && text.head? = some '\x7b' && text.getLast? = some '\x7d' then
    withoutHyphens? (text.drop 1).dropLast
  else if text.length = 45 && isMarked text then
    withoutHyphens? (text.drop marker.length)
  else withoutHyphens? text

/-- The identifier that a text denotes, in either case of letters. -/
def parse? (text : String) : Option Uuid := do
  let digits ← digits? text.toList
  let n ← hexNumber? digits
  return ⟨BitVec.ofNat 128 n⟩

end Uuid

/-- Organisms are identified by 128-bit numbers. -/
abbrev OrganismId := Uuid

/-- The namespace of names of organisms. -/
def organismNamespace : Uuid := ⟨0x6f7267616e69736d2d646e616c616e67⟩

/-- The identifier derived from the name of an organism. -/
def OrganismId.ofName (name : String) : OrganismId := Uuid.ofName organismNamespace name

end Vivarium
