import Vivarium.Number.Binary64

/-!
# Comparing doubles

What the clamps of this library rely on.  A comparison with a NaN is false, and of two
doubles that are numbers one is below the other or not above it; so whatever goes into a
clamp, a number between the bounds comes out.

The clamp of a sum is only between its bounds if the sum is a number.  A sum is one when
both summands are and one of them is finite; a product or a quotient of a number with a
finite number other than zero is a number again, whatever it is rounded to.  Nothing else
about the arithmetic of doubles is used anywhere.

Beside these comparisons stands the total order of all doubles, by which organisms are ranked.
It tells any two of them apart, also the two zeros, so what is tied in it is equal bit by bit.

Main statements:

* `le_of_not_lt`, `not_lt_of_le`, `clamp_mem`: comparisons and the clamp;
* `totalLe_antisymm`: no two doubles are tied in the total order;
* `isNaN_add`, `isNaN_mul`, `isNaN_div`: when an operation gives a number.
-/

namespace Vivarium.Number

open Float.Model (Format UnpackedFloat)
open Float.Model.UnpackedFloat

/-! ## Comparisons -/

/-- A double that is taken apart: a NaN, an infinity, a zero, or a significand with an
exponent. -/
def parts (x : Float) : UnpackedFloat := x.toModel.unpack

theorem le_iff {x y : Float} : x ≤ y ↔ (parts x).le (parts y) = true := decide_eq_true_iff

theorem lt_iff {x y : Float} : x < y ↔ (parts x).lt (parts y) = true := decide_eq_true_iff

theorem compare_swap (u v : UnpackedFloat) : v.compare u = (u.compare v).map Ordering.swap := by
  have reversed (e f : Int) (m n : Nat) :
      (compare f e).then (compare n m) = ((compare e f).then (compare m n)).swap := by
    rw [Ordering.swap_then, ← Std.OrientedOrd.eq_swap, ← Std.OrientedOrd.eq_swap]
  rcases u with ⟨_ | _⟩ | _ | ⟨_ | _⟩ | ⟨_ | _, m, e, positive⟩ <;>
    rcases v with ⟨_ | _⟩ | _ | ⟨_ | _⟩ | ⟨_ | _, n, f, positive'⟩ <;> try rfl
  -- two finite numbers of one sign are compared by exponent and significand
  · exact congrArg some (congrArg Ordering.swap (reversed e f m n))
  · exact congrArg some (reversed e f m n)

/-- Just the numbers can be compared. -/
theorem isSome_compare (u v : UnpackedFloat) :
    (u.compare v).isSome = (!u.isNaN && !v.isNaN) := by
  rcases u with ⟨_ | _⟩ | _ | ⟨_ | _⟩ | ⟨_ | _, m, e, positive⟩ <;>
    rcases v with ⟨_ | _⟩ | _ | ⟨_ | _⟩ | ⟨_ | _, n, f, positive'⟩ <;> rfl

/-- A number that is not below another one is above or equal to it. -/
theorem le_of_not_lt {x y : Float} (number : x.isNaN = false) (number' : y.isNaN = false)
    (notBelow : ¬x < y) : y ≤ x := by
  have comparable : ((parts x).compare (parts y)).isSome = true := by
    rw [isSome_compare]
    show (!x.isNaN && !y.isNaN) = true
    rw [number, number']
    rfl
  obtain ⟨order, compared⟩ := Option.isSome_iff_exists.mp comparable
  rw [lt_iff, UnpackedFloat.lt, compared] at notBelow
  rw [le_iff, UnpackedFloat.le, compare_swap (parts x), compared]
  cases order with
  | lt => exact absurd rfl notBelow
  | eq => rfl
  | gt => rfl

/-- What lies below something or above it is a number. -/
theorem isNaN_of_le {x y : Float} (below : x ≤ y) : x.isNaN = false ∧ y.isNaN = false := by
  have comparable : ((parts x).compare (parts y)).isSome = true := by
    rw [le_iff, UnpackedFloat.le] at below
    obtain ⟨order, compared, -⟩ := (Option.any_eq_true _ _).mp below
    rw [compared]
    rfl
  rw [isSome_compare, Bool.and_eq_true, Bool.not_eq_true', Bool.not_eq_true'] at comparable
  exact comparable

/-- What lies above a number or is equal to it is not below it. -/
theorem not_lt_of_le {x y : Float} (below : x ≤ y) : ¬y < x := by
  rw [le_iff, UnpackedFloat.le] at below
  obtain ⟨order, compared, upward⟩ := (Option.any_eq_true _ _).mp below
  rw [lt_iff, UnpackedFloat.lt, compare_swap (parts x), compared, beq_iff_eq]
  cases order with
  | lt => exact nofun
  | eq => exact nofun
  | gt => cases upward

theorem le_refl_of_number {x : Float} (number : x.isNaN = false) : x ≤ x := by
  refine le_of_not_lt number number ?_
  rw [lt_iff, UnpackedFloat.lt, beq_iff_eq]
  intro below
  -- nothing stands below itself, since the other way round it would stand above
  have swapped := compare_swap (parts x) (parts x)
  rw [below] at swapped
  cases swapped

/-- A number is clamped into the bounds. -/
theorem clamp_mem {x low high : Float} (number : x.isNaN = false) (ordered : low ≤ high) :
    low ≤ clamp x low high ∧ clamp x low high ≤ high := by
  obtain ⟨lowNumber, highNumber⟩ := isNaN_of_le ordered
  unfold clamp
  split
  · exact ⟨le_refl_of_number lowNumber, ordered⟩
  · rename_i notBelow
    split
    · exact ⟨ordered, le_refl_of_number highNumber⟩
    · rename_i notAbove
      exact ⟨le_of_not_lt number lowNumber notBelow, le_of_not_lt highNumber number notAbove⟩

/-! ## The total order -/

theorem eq_of_toBits {x y : Float} (same : x.toBits = y.toBits) : x = y := by
  obtain ⟨⟨xBits, xValid⟩⟩ := x
  obtain ⟨⟨yBits, yValid⟩⟩ := y
  change xBits = yBits at same
  subst same
  rfl

/-- The position of a double in the total order gives its bits away. -/
theorem eq_of_rank {x y : Float} (same : rank x = rank y) : x = y := by
  have xBelow : x.toBits.toNat < 2 * signBound := x.toBits.toNat_lt
  have yBelow : y.toBits.toNat < 2 * signBound := y.toBits.toNat_lt
  refine eq_of_toBits (UInt64.toNat_inj.mp ?_)
  unfold rank isNegative magnitude at same
  generalize x.toBits.toNat = m at *
  generalize y.toBits.toNat = n at *
  unfold signBound at *
  simp only [decide_eq_true_eq] at same
  -- a negative position says that the sign bit is set, and the rest of the bits is its distance
  split at same <;> split at same <;> omega

theorem totalLe_antisymm {x y : Float} (first : totalLe x y = true) (second : totalLe y x = true) :
    x = y := by
  simp only [totalLe, decide_eq_true_eq] at first second
  exact eq_of_rank (Int.le_antisymm first second)

/-! ## Finite numbers -/

theorem isNaN_unpacked_of_isFinite {u : UnpackedFloat} (finite : u.isFinite = true) :
    u.isNaN = false := by
  cases u with
  | infinity sign => rfl
  | notANumber => cases finite
  | zero sign => rfl
  | finite => rfl

theorem isNaN_of_isFinite {x : Float} (finite : (parts x).isFinite = true) : x.isNaN = false :=
  isNaN_unpacked_of_isFinite finite

/-- Nothing finite lies below the negative infinity or above the positive one. -/
theorem infinity_beyond {u : UnpackedFloat} (finite : u.isFinite = true) :
    u.le (.infinity .negative) = false ∧ (UnpackedFloat.infinity .positive).le u = false := by
  cases u with
  | infinity sign => cases finite
  | notANumber => cases finite
  | zero sign => cases sign <;> exact ⟨rfl, rfl⟩
  | finite sign => cases sign <;> exact ⟨rfl, rfl⟩

/-- What lies between finite bounds is finite. -/
theorem isFinite_of_between {x low high : Float} (above : low ≤ x) (below : x ≤ high)
    (lowFinite : (parts low).isFinite = true) (highFinite : (parts high).isFinite = true) :
    (parts x).isFinite = true := by
  have number : (parts x).isNaN = false := (isNaN_of_le below).1
  rw [le_iff] at above below
  cases taken : parts x with
  | infinity sign =>
      cases sign with
      | negative =>
          rw [taken, (infinity_beyond lowFinite).1] at above
          cases above
      | positive =>
          rw [taken, (infinity_beyond highFinite).2] at below
          cases below
  | notANumber =>
      rw [taken] at number
      cases number
  | zero sign => rfl
  | finite => rfl

/-- A bit pattern is that of a finite number unless all bits of its exponent are set. -/
theorem isFinite_unpack {spec : Format} (packed : BitVec spec.numBits) :
    (unpack spec packed).isFinite = decide (unpackExponent packed ≠ -1#_) := by
  unfold unpack
  by_cases allSet : unpackExponent packed = -1#_
  · rw [if_pos allSet, decide_eq_false (not_not_intro allSet)]
    by_cases bare : unpackMantissa packed = 0#_
    · rw [if_pos bare]
      rfl
    · rw [if_neg bare]
      rfl
  · rw [if_neg allSet, decide_eq_true allSet]
    by_cases small : unpackExponent packed = 0#_
    · rw [if_pos small]
      by_cases bare : unpackMantissa packed = 0#_
      · rw [dif_pos bare]
        rfl
      · rw [dif_neg bare]
        rfl
    · rw [if_neg small]
      rfl

/-- Whether a double is finite can be told from its bits or from its parts. -/
theorem isFinite_eq_parts (x : Float) : isFinite x = (parts x).isFinite := by
  have allSet : (-1#11 : BitVec 11).toNat = 2047 := rfl
  show decide (x.toModel.toBits.toBitVec.toNat % signBound < 2047 * hiddenBit) =
    (unpack Format.binary64 x.toModel.toBits.toBitVec).isFinite
  rw [isFinite_unpack]
  generalize x.toModel.toBits.toBitVec = packed
  refine decide_eq_decide.mpr ?_
  rw [Ne, ← BitVec.toNat_inj]
  show _ ↔ ¬ (BitVec.extractLsb 62 52 packed).toNat = (-1#11 : BitVec 11).toNat
  rw [BitVec.extractLsb_toNat, allSet, signBound, hiddenBit, Nat.shiftRight_eq_div_pow]
  show _ ↔ ¬ packed.toNat / 4503599627370496 % 2048 = 2047
  omega

/-! ## Packing -/

/-- A bit pattern is that of a NaN only if all bits of its exponent are set. -/
theorem isNaN_unpack_packComponents {spec : Format} {sign : Sign}
    {exponent : BitVec spec.exponentBits} {mantissa : BitVec spec.mantissaBitsWithoutImplicit}
    (ordinary : exponent ≠ -1#_) :
    (unpack spec (packComponents spec sign exponent mantissa)).isNaN = false := by
  refine isNaN_unpacked_of_isFinite ?_
  rw [isFinite_unpack, unpackExponent_packComponents]
  exact decide_eq_true ordinary

theorem isNaN_unpack_packedInfinity (spec : Format) (sign : Sign) :
    (unpack spec (packedInfinity spec sign)).isNaN = false := by
  unfold unpack packedInfinity
  dsimp only
  rw [if_pos (unpackExponent_packComponents ..), unpackMantissa_packComponents, if_pos]
  · rfl
  · rfl

theorem zero_ne_allOnes (spec : Format) : BitVec.ofNat spec.exponentBits 0 ≠ -1#_ := by
  intro same
  have values := congrArg BitVec.toNat same
  rw [BitVec.neg_one_eq_allOnes, BitVec.toNat_allOnes, BitVec.toNat_zero] at values
  have := Nat.one_lt_two_pow (Nat.pos_iff_ne_zero.mp spec.he)
  omega

/-- No number becomes a NaN when it is packed; it may become infinite. -/
theorem isNaN_unpack_pack (spec : Format) {u : UnpackedFloat} (number : u.isNaN = false) :
    (unpack spec (pack spec u)).isNaN = false := by
  cases u with
  | infinity sign => exact isNaN_unpack_packedInfinity spec sign
  | notANumber => cases number
  | zero sign => exact isNaN_unpack_packComponents (zero_ne_allOnes spec)
  | finite sign mantissa exponent positive =>
      unfold pack
      dsimp only
      split
      · exact isNaN_unpack_packedInfinity spec sign
      · rename_i room
        split
        · refine isNaN_unpack_packComponents ?_
          intro same
          have values := congrArg BitVec.toNat same
          rw [BitVec.neg_one_eq_allOnes, BitVec.toNat_allOnes, BitVec.toNat_ofNat,
            Nat.mod_eq_of_lt (by omega)] at values
          omega
        · exact isNaN_unpack_packComponents (zero_ne_allOnes spec)

/-! ## Rounding and arithmetic -/

theorem isNaN_roundWithAccuracy (spec : Format) (sign : Sign) (mantissa : Nat) (exponent : Int)
    (accuracy : Accuracy) :
    (roundWithAccuracy spec sign mantissa exponent accuracy).isNaN = false := by
  -- a significand of zero gives a zero, and any other one a finite number
  have either {p : Prop} [Decidable p] {first : p → UnpackedFloat} {second : ¬p → UnpackedFloat}
      (number : ∀ h, (first h).isNaN = false) (number' : ∀ h, (second h).isNaN = false) :
      (dite p first second).isNaN = false := by
    by_cases h : p
    · rw [dif_pos h]
      exact number h
    · rw [dif_neg h]
      exact number' h
  exact either (fun _ => rfl) (fun _ => rfl)

theorem isNaN_normalize (spec : Format) (mantissa exponent : Int) (zeroSign : Sign) :
    (UnpackedFloat.normalize spec mantissa exponent zeroSign).isNaN = false := by
  unfold UnpackedFloat.normalize
  generalize compare mantissa 0 = order
  cases order with
  | lt => exact isNaN_roundWithAccuracy _ _ _ _ _
  | eq => rfl
  | gt => exact isNaN_roundWithAccuracy _ _ _ _ _

/-- The sum of two numbers is a number if one of them is finite. -/
theorem isNaN_add {x y : Float} (number : x.isNaN = false) (number' : y.isNaN = false)
    (finite : (parts x).isFinite = true ∨ (parts y).isFinite = true) :
    (x + y).isNaN = false := by
  refine isNaN_unpack_pack Format.binary64 ?_
  change (parts x).isNaN = false at number
  change (parts y).isNaN = false at number'
  show (add Format.binary64 (parts x) (parts y)).isNaN = false
  generalize parts x = u at number finite ⊢
  generalize parts y = v at number' finite ⊢
  cases u with
  | notANumber => cases number
  | infinity sign =>
      cases v with
      | notANumber => cases number'
      | infinity sign' => rcases finite with impossible | impossible <;> cases impossible
      | zero sign' => rfl
      | finite => rfl
  | zero sign =>
      cases v with
      | notANumber => cases number'
      | infinity sign' => rfl
      | zero sign' => cases sign <;> cases sign' <;> rfl
      | finite => rfl
  | finite sign mantissa exponent positive =>
      cases v with
      | notANumber => cases number'
      | infinity sign' => rfl
      | zero sign' => rfl
      | finite => exact isNaN_normalize _ _ _ _

/-- A double that is finite and not zero. -/
def isSolid (x : Float) : Bool :=
  match parts x with
  | .finite _ _ _ _ => true
  | _ => false

theorem parts_of_isSolid {x : Float} (solid : isSolid x = true) :
    ∃ sign mantissa exponent positive, parts x = .finite sign mantissa exponent positive := by
  unfold isSolid at solid
  generalize parts x = u at solid ⊢
  cases u with
  | finite sign mantissa exponent positive => exact ⟨sign, mantissa, exponent, positive, rfl⟩
  | notANumber => cases solid
  | infinity sign => cases solid
  | zero sign => cases solid

/-- The product of a number with a finite one that is not zero is a number. -/
theorem isNaN_mul {x y : Float} (number : x.isNaN = false) (solid : isSolid y = true) :
    (x * y).isNaN = false := by
  refine isNaN_unpack_pack Format.binary64 ?_
  change (parts x).isNaN = false at number
  show (mul Format.binary64 (parts x) (parts y)).isNaN = false
  obtain ⟨sign, mantissa, exponent, positive, taken⟩ := parts_of_isSolid solid
  rw [taken]
  generalize parts x = u at number ⊢
  cases u with
  | notANumber => cases number
  | infinity sign => rfl
  | zero sign => rfl
  | finite => exact isNaN_roundWithAccuracy _ _ _ _ _

/-- The quotient of a number by a finite one that is not zero is a number. -/
theorem isNaN_div {x y : Float} (number : x.isNaN = false) (solid : isSolid y = true) :
    (x / y).isNaN = false := by
  refine isNaN_unpack_pack Format.binary64 ?_
  change (parts x).isNaN = false at number
  show (div Format.binary64 (parts x) (parts y)).isNaN = false
  obtain ⟨sign, mantissa, exponent, positive, taken⟩ := parts_of_isSolid solid
  rw [taken]
  generalize parts x = u at number ⊢
  cases u with
  | notANumber => cases number
  | infinity sign => rfl
  | zero sign => rfl
  | finite => exact isNaN_roundWithAccuracy _ _ _ _ _

/-- A machine word is a number. -/
theorem isNaN_toFloat (word : UInt64) : word.toFloat.isNaN = false :=
  isNaN_unpack_pack Format.binary64 (isNaN_normalize _ _ _ _)

end Vivarium.Number
