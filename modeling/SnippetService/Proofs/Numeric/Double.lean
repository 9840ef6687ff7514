import Mathlib
import SnippetService.Proofs.Numeric.Nearest
/-!
Doubles and their patterns. A double that is made of a pattern gives the pattern back, and is infinite exactly if the
pattern is that of infinity, with any sign. Only a pattern that is no number may come back as another. The library's
`pack_unpack_of_valid` comes with Mathlib as a whole only: no module of it that could be named instead imports it.
-/
namespace SnippetService

open Float.Model (Format UnpackedFloat)
open Float.Model.UnpackedFloat

section

variable {b : BitVec Format.binary64.numBits}

theorem toNat_unpackMantissa : (unpackMantissa b).toNat = b.toNat % 2 ^ 52 := by
  simp [unpackMantissa, BitVec.extractLsb]

theorem toNat_unpackExponent : (unpackExponent b).toNat = b.toNat / 2 ^ 52 % 2 ^ 11 := by
  simp [unpackExponent, BitVec.extractLsb, Nat.shiftRight_eq_div_pow]

theorem isInf_unpack_iff :
    (unpack .binary64 b).isInf = true ↔ unpackExponent b = -1#_ ∧ unpackMantissa b = 0#_ := by
  rw [unpack]
  dsimp only
  split_ifs with hLast hZero <;> simp_all [UnpackedFloat.isInf]

end

section

variable {bits : Nat}

/-- The pattern of a double in the terms of its model. -/
def word (bits : Nat) : BitVec Format.binary64.numBits := (UInt64.ofNat bits).toBitVec

theorem toNat_word (hBits : bits < 2 ^ 64) : (word bits).toNat = bits := Nat.mod_eq_of_lt hBits

/-- Without its sign, a pattern is the exponent with the fraction behind it. -/
theorem magnitudeBits_double (hBits : bits < 2 ^ 64) :
    BinaryFormat.double.magnitudeBits bits =
      (unpackExponent (word bits)).toNat * 2 ^ 52 + (unpackMantissa (word bits)).toNat := by
  rw [BinaryFormat.magnitudeBits_eq, toNat_unpackExponent, toNat_unpackMantissa, toNat_word hBits]
  rfl

theorem infinityBits_double : BinaryFormat.double.infinityBits = 2047 * 2 ^ 52 := rfl

/-- A pattern up to that of infinity is a number or infinite, with any sign. -/
theorem valid_word (hBits : bits < 2 ^ 64)
    (hNumber : BinaryFormat.double.magnitudeBits bits ≤ BinaryFormat.double.infinityBits) :
    Format.binary64.Valid (word bits) := by
  refine ⟨fun hLast hFraction => absurd ?_ hFraction⟩
  have hField : (unpackExponent (word bits)).toNat = 2047 := by rw [hLast]; rfl
  rw [magnitudeBits_double hBits, infinityBits_double, hField] at hNumber
  refine BitVec.eq_of_toNat_eq ?_
  change _ = 0
  omega

/-- A double gives the pattern back of which it is made. -/
theorem toBits_doubleOfBits (hBits : bits < 2 ^ 64)
    (hNumber : BinaryFormat.double.magnitudeBits bits ≤ BinaryFormat.double.infinityBits) :
    (doubleOfBits bits).toBits.toNat = bits := by
  change (pack .binary64 (unpack .binary64 (word bits))).toNat = bits
  rw [pack_unpack_of_valid (valid_word hBits hNumber), toNat_word hBits]

/-- A double is infinite exactly if it is made of the pattern of infinity, with any sign. -/
theorem isInf_doubleOfBits (hBits : bits < 2 ^ 64)
    (hNumber : BinaryFormat.double.magnitudeBits bits ≤ BinaryFormat.double.infinityBits) :
    (doubleOfBits bits).isInf = true ↔
      BinaryFormat.double.magnitudeBits bits = BinaryFormat.double.infinityBits := by
  have hFraction : (unpackMantissa (word bits)).toNat < 2 ^ 52 := (unpackMantissa (word bits)).isLt
  change (unpack .binary64 (pack .binary64 (unpack .binary64 (word bits)))).isInf = true ↔ _
  rw [pack_unpack_of_valid (valid_word hBits hNumber), isInf_unpack_iff, magnitudeBits_double hBits,
    infinityBits_double]
  constructor
  · rintro ⟨hLast, hZero⟩
    rw [hLast, hZero]
    rfl
  · intro hInfinite
    exact ⟨BitVec.eq_of_toNat_eq (show _ = 2047 by omega), BitVec.eq_of_toNat_eq (show _ = 0 by omega)⟩

end

theorem roundQuotient_le_infinityBits (f : BinaryFormat) (num den : Nat) :
    f.roundQuotient num den ≤ f.infinityBits := by
  unfold BinaryFormat.roundQuotient
  split
  · exact Nat.zero_le _
  · exact min_le_right _ _

theorem withSign_double_lt {negative : Bool} {bits : Nat} (hBits : bits < 2 ^ 63) :
    BinaryFormat.double.withSign negative bits < 2 ^ 64 := by
  have hSign : BinaryFormat.double.signBit = 2 ^ 63 := rfl
  unfold BinaryFormat.withSign
  split <;> omega

section

variable {n : Int}

theorem magnitudeBits_ofInt (n : Int) :
    BinaryFormat.double.magnitudeBits (BinaryFormat.double.ofInt n) =
      BinaryFormat.double.roundQuotient n.natAbs 1 :=
  BinaryFormat.magnitudeBits_withSign
    ((roundQuotient_le_infinityBits _ _ _).trans_lt BinaryFormat.infinityBits_lt_signBit)

theorem ofInt_double_lt (n : Int) : BinaryFormat.double.ofInt n < 2 ^ 64 :=
  withSign_double_lt ((roundQuotient_le_infinityBits _ _ _).trans_lt (by decide))

/-- An integer is infinite as a double exactly if its size reaches the middle between the greatest double and the power
of two behind it. -/
theorem isInf_doubleOfInt_iff (n : Int) : (doubleOfInt n).isInf = true ↔ 2 ^ 1024 - 2 ^ 970 ≤ |n| := by
  have hRound := roundQuotient_le_infinityBits BinaryFormat.double n.natAbs 1
  have hMagnitude := magnitudeBits_ofInt n
  rw [doubleOfInt, isInf_doubleOfBits (ofInt_double_lt n) (hMagnitude.trans_le hRound), hMagnitude, ← hRound.ge_iff_eq,
    BinaryFormat.roundQuotient_infinite_iff (by decide) (by decide) Nat.one_pos]
  have hLeast : (2 : ℚ) ^ BinaryFormat.double.leastExponent = (2 ^ 1074)⁻¹ := by
    rw [← zpow_natCast, ← zpow_neg]
    rfl
  have hThreshold : ((2 ^ (BinaryFormat.double.fractionBits + 2) - 1) *
      2 ^ (2 ^ BinaryFormat.double.exponentBits - 3) : ℚ) = (2 ^ 1024 - 2 ^ 970) * 2 ^ 1075 := by
    change ((2 ^ 54 - 1) * 2 ^ 2045 : ℚ) = _
    rw [show (2045 : ℕ) = 970 + 1075 from rfl, show (1024 : ℕ) = 54 + 970 from rfl, pow_add _ 970, pow_add _ 54]
    generalize (2 : ℚ) ^ 970 = a, (2 : ℚ) ^ 1075 = b
    ring
  have hSize : 2 * ((n.natAbs : ℚ) / (1 : ℕ) / (2 ^ 1074)⁻¹) = (|n| : ℤ) * 2 ^ 1075 := by
    have hNext : (2 : ℚ) ^ 1075 = 2 ^ 1074 * 2 := pow_succ 2 1074
    rw [Nat.cast_one, div_one, div_inv_eq_mul, Nat.cast_natAbs, hNext, mul_left_comm, mul_comm 2]
  rw [hLeast, hThreshold, hSize, mul_le_mul_iff_left₀ (by positivity)]
  exact ⟨fun h => by exact_mod_cast h, fun h => by exact_mod_cast h⟩

/-- The double of any other integer is the nearest one, with the sign of the integer. -/
theorem nearest_doubleOfInt (hSmall : ¬(doubleOfInt n).isInf = true) :
    BinaryFormat.double.isNegative (doubleOfInt n).toBits.toNat = decide (n < 0) ∧
    ∃ y, BinaryFormat.double.Nearest n y (doubleOfInt n).toBits.toNat := by
  have hRound := roundQuotient_le_infinityBits BinaryFormat.double n.natAbs 1
  have hMagnitude := magnitudeBits_ofInt n
  rw [doubleOfInt, isInf_doubleOfBits (ofInt_double_lt n) (hMagnitude.trans_le hRound), hMagnitude] at hSmall
  rw [doubleOfInt, toBits_doubleOfBits (ofInt_double_lt n) (hMagnitude.trans_le hRound)]
  have hFinite := lt_of_le_of_ne hRound hSmall
  refine ⟨BinaryFormat.isNegative_withSign (hFinite.trans BinaryFormat.infinityBits_lt_signBit), ?_⟩
  have hNumber : negatedIf (n < 0) ((n.natAbs : ℚ) / (1 : ℕ)) = n := by
    rw [Nat.cast_one, div_one, Nat.cast_natAbs, negatedIf]
    split
    case isTrue hNegative => rw [abs_of_neg (of_decide_eq_true hNegative), Int.cast_neg, neg_neg]
    case isFalse hPositive => rw [abs_of_nonneg (not_lt.mp (of_decide_eq_false (Bool.eq_false_iff.mpr hPositive)))]
  have hNearest := BinaryFormat.nearest_roundQuotient (by decide) Nat.one_pos hFinite (n < 0)
  rw [hNumber] at hNearest
  exact hNearest

end

end SnippetService
