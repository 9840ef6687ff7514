import SnippetService.Proofs.Numeric.Double
import SnippetService.Proofs.Numeric.Shortest
/-!
Reading back what was written. A decimal in the rounding interval of a number of a format is rounded to the pattern of
this number, so the shortest digits of a double give the double back.
-/
namespace SnippetService.BinaryFormat

open Shortest

variable {f : BinaryFormat}

/-- A number is nearer to a pattern than to its neighbours if it is between the middles on both sides; on a middle, the
pattern has to be even. -/
theorem nearer_eq {x : ℚ} {low b : Nat} (hLow : f.multiple low ≤ x) (hHigh : x < f.multiple (low + 1))
    (hBelow : (f.multiple b + f.multiple (b + 1) : ℚ) ≤ 2 * x)
    (hAbove : 2 * x ≤ f.multiple (b + 1) + f.multiple (b + 1 + 1))
    (hOdd : (b + 1) % 2 = 1 → (f.multiple b + f.multiple (b + 1) : ℚ) < 2 * x ∧
      2 * x < f.multiple (b + 1) + f.multiple (b + 1 + 1)) :
    f.nearer x low = b + 1 := by
  have hFirst : (f.multiple b : ℚ) < f.multiple (b + 1) := by exact_mod_cast f.multiple_strictMono (Nat.lt_succ_self b)
  have hSecond : (f.multiple (b + 1) : ℚ) < f.multiple (b + 1 + 1) := by
    exact_mod_cast f.multiple_strictMono (Nat.lt_succ_self (b + 1))
  have hNotBefore : b ≤ low := by
    by_contra hBefore
    have hOrder : (f.multiple (low + 1) : ℚ) ≤ f.multiple b := by
      exact_mod_cast f.multiple_strictMono.monotone (Nat.not_le.mp hBefore)
    linarith
  have hNotBehind : low ≤ b + 1 := by
    by_contra hBehind
    have hOrder : (f.multiple (b + 1 + 1) : ℚ) ≤ f.multiple low := by
      exact_mod_cast f.multiple_strictMono.monotone (Nat.not_le.mp hBehind)
    linarith
  obtain rfl | rfl : low = b ∨ low = b + 1 := by omega
  · unfold nearer
    split_ifs with hNearLow hNearHigh
    · linarith
    · rfl
    · have hEven : ¬(low + 1) % 2 = 1 := fun hParity => hNearHigh (hOdd hParity).1
      omega
  · unfold nearer
    split_ifs with hNearLow hNearHigh
    · rfl
    · linarith
    · have hEven : ¬(b + 1) % 2 = 1 := fun hParity => hNearLow (hOdd hParity).2
      omega

/-- The pattern in front of that of a number. Where the number begins a binade, the step to it is half as long. -/
theorem exists_pred {k m : Nat} (hM : 0 < m) (hAbove : m < 2 ^ (f.fractionBits + 1))
    (hBelow : k = 0 ∨ 2 ^ f.fractionBits ≤ m) :
    ∃ b, k * 2 ^ f.fractionBits + m = b + 1 ∧
      2 * (f.multiple b : ℚ) = (if m = 2 ^ f.fractionBits ∧ 0 < k then 2 * (m : ℚ) - 1 else 2 * (m - 1)) * 2 ^ k := by
  by_cases hBegin : m = 2 ^ f.fractionBits ∧ 0 < k
  · obtain ⟨rfl, hPositive⟩ := hBegin
    obtain ⟨j, rfl⟩ := Nat.exists_eq_succ_of_ne_zero hPositive.ne'
    -- The significand in front has all its bits set.
    obtain ⟨q, hQ⟩ : ∃ q, 2 ^ (f.fractionBits + 1) = q + 1 := ⟨_, (Nat.sub_add_cancel (Nat.two_pow_pos _)).symm⟩
    have hTwice : 2 ^ f.fractionBits + 2 ^ f.fractionBits = q + 1 := by rw [← hQ, pow_succ]; ring
    refine ⟨j * 2 ^ f.fractionBits + q, by rw [Nat.succ_mul]; omega, ?_⟩
    have hTwiceQ : 2 * (2 : ℚ) ^ f.fractionBits = q + 1 := by
      rw [two_mul]
      exact_mod_cast hTwice
    rw [f.multiple_eq (by omega) (.inr (by omega)), if_pos ⟨rfl, hPositive⟩]
    push_cast
    rw [hTwiceQ, pow_succ]
    ring
  · obtain ⟨q, rfl⟩ := Nat.exists_eq_succ_of_ne_zero hM.ne'
    have hRest : k = 0 ∨ 2 ^ f.fractionBits ≤ q := by
      rcases hBelow with hSmallest | hLarge
      · exact .inl hSmallest
      · refine or_iff_not_imp_left.mpr fun hPositive => ?_
        have hNotBegin : q + 1 ≠ 2 ^ f.fractionBits := fun hSame => hBegin ⟨hSame, Nat.pos_of_ne_zero hPositive⟩
        omega
    refine ⟨k * 2 ^ f.fractionBits + q, rfl, ?_⟩
    rw [f.multiple_eq (by omega) hRest, if_neg hBegin]
    push_cast
    ring

/-- A decimal in the rounding interval of a number is rounded to its pattern. -/
theorem roundQuotient_of_roundsTo (hFraction : 0 < f.fractionBits) {k m num den : Nat} (hM : 0 < m)
    (hAbove : m < 2 ^ (f.fractionBits + 1)) (hBelow : k = 0 ∨ 2 ^ f.fractionBits ≤ m)
    (hFinite : k * 2 ^ f.fractionBits + m < f.infinityBits) (hDen : 0 < den)
    (hRounds : RoundsTo m (f.leastExponent + k) (decide (m = 2 ^ f.fractionBits ∧ 0 < k)) (num / den)) :
    f.roundQuotient num den = k * 2 ^ f.fractionBits + m := by
  obtain ⟨low, hLow, hHigh, hRound⟩ := roundQuotient_eq hFraction num hDen
  obtain ⟨b, hBits, hPred⟩ := exists_pred hM hAbove hBelow
  have hPower : (0 : ℚ) < 2 ^ k := by positivity
  have hUnits : 4 * ((num : ℚ) / den) / 2 ^ (f.leastExponent + k) = 4 * (num / den / 2 ^ f.leastExponent) / 2 ^ k := by
    rw [zpow_add₀ two_ne_zero, zpow_natCast]
    field_simp
  rw [RoundsTo, hUnits] at hRounds
  simp only [decide_eq_true_eq, le_div_iff₀ hPower, lt_div_iff₀ hPower, div_le_iff₀ hPower, div_lt_iff₀ hPower]
    at hRounds
  generalize (num : ℚ) / den / 2 ^ f.leastExponent = x at *
  have hHere : (f.multiple (b + 1) : ℚ) = m * 2 ^ k := by
    rw [← hBits, f.multiple_eq hAbove.le hBelow]
    push_cast
    rfl
  have hNext : (f.multiple (b + 1 + 1) : ℚ) = (m + 1) * 2 ^ k := by
    rw [← hBits, Nat.add_assoc, f.multiple_eq hAbove (hBelow.imp_right Nat.le_succ_of_le)]
    push_cast
    rfl
  have hParity : (b + 1) % 2 = m % 2 := by
    obtain ⟨p, hP⟩ := Nat.exists_eq_succ_of_ne_zero hFraction.ne'
    rw [← hBits, hP, pow_succ, ← mul_assoc, Nat.mul_add_mod_self_right]
  have hLowEnd : (if m = 2 ^ f.fractionBits ∧ 0 < k then 4 * (m : ℚ) - 1 else 4 * m - 2) * 2 ^ k =
      2 * (f.multiple b + f.multiple (b + 1)) := by
    rw [mul_add, hPred, hHere]
    split_ifs <;> ring
  have hHighEnd : (4 * (m : ℚ) + 2) * 2 ^ k = 2 * (f.multiple (b + 1) + f.multiple (b + 1 + 1)) := by
    rw [hHere, hNext]
    ring
  rw [hLowEnd, hHighEnd] at hRounds
  have hNearer : f.nearer x low = b + 1 := by
    split at hRounds
    case isTrue hEven => exact nearer_eq hLow hHigh (by linarith) (by linarith) (by omega)
    case isFalse =>
      exact nearer_eq hLow hHigh (by linarith) (by linarith) fun _ => ⟨by linarith, by linarith⟩
  rw [hRound, hNearer, ← hBits]
  exact min_eq_left hFinite.le

/-- A decimal is a quotient. -/
theorem ofDecimal_eq (negative : Bool) (digits : Nat) (exponent : Int) :
    ∃ num den : Nat, 0 < den ∧ (num / den : ℚ) = digits * 10 ^ exponent ∧
      f.ofDecimal negative digits exponent = f.withSign negative (f.roundQuotient num den) := by
  rcases lt_or_ge exponent 0 with hNegative | hPositive
  · refine ⟨digits, 10 ^ (-exponent).toNat, Nat.pow_pos (by decide), ?_, ?_⟩
    · rw [ten_zpow_of_neg hNegative, div_eq_mul_inv]
    · rw [ofDecimal, if_pos hNegative]
      rfl
  · refine ⟨digits * 10 ^ exponent.toNat, 1, Nat.one_pos, ?_, ?_⟩
    · rw [ten_zpow_of_nonneg hPositive, Nat.cast_mul, Nat.cast_one, div_one]
    · rw [ofDecimal, if_neg (not_lt.mpr hPositive)]
      rfl

/-- What a pattern is read as: the parts of which it is put together. -/
theorem decode_finite {bits m : Nat} {negative : Bool} {e : Int} (hValue : f.decode bits = .finite negative m e) :
    negative = f.isNegative bits ∧ ∃ k : Nat, e = f.leastExponent + k ∧ m < 2 ^ (f.fractionBits + 1) ∧
      (k = 0 ∨ 2 ^ f.fractionBits ≤ m) ∧ f.magnitudeBits bits = k * 2 ^ f.fractionBits + m ∧
      f.magnitudeBits bits < f.infinityBits := by
  have hField := Nat.mod_lt (bits / 2 ^ f.fractionBits) (Nat.two_pow_pos f.exponentBits)
  have hFraction := Nat.mod_lt bits (Nat.two_pow_pos f.fractionBits)
  rw [magnitudeBits_eq, lt_infinityBits_iff hFraction hField]
  unfold decode at hValue
  simp only [Nat.pow_eq, beq_iff_eq] at hValue
  generalize bits / 2 ^ f.fractionBits % 2 ^ f.exponentBits = field at *
  generalize bits % 2 ^ f.fractionBits = fraction at *
  split_ifs at hValue with hLast hInfinite hZero
  · cases hValue
    exact ⟨rfl, 0, by simp, by rw [pow_succ]; omega, .inl rfl, by rw [hZero], hLast⟩
  · obtain ⟨k, rfl⟩ := Nat.exists_eq_succ_of_ne_zero hZero
    cases hValue
    exact ⟨rfl, k, by push_cast; ring, by rw [pow_succ]; omega, .inr (Nat.le_add_right _ _), by rw [Nat.succ_mul]; ring,
      hLast⟩

theorem withSign_magnitudeBits {bits : Nat} (hBits : bits < 2 * f.signBit) :
    f.withSign (f.isNegative bits) (f.magnitudeBits bits) = bits := by
  have hSplit := Nat.div_add_mod bits f.signBit
  have hSign : bits / f.signBit < 2 := Nat.div_lt_of_lt_mul (by rwa [Nat.mul_comm])
  rw [withSign, isNegative, magnitudeBits, Nat.mod_eq_of_lt hSign]
  rcases Nat.le_one_iff_eq_zero_or_eq_one.mp (Nat.lt_succ_iff.mp hSign) with hZero | hOne
  · rw [hZero] at hSplit ⊢
    simpa using hSplit
  · rw [hOne] at hSplit ⊢
    simpa using hSplit

/-- A number other than zero gives its sign and its size. -/
theorem negatedIf_inj {x y : ℚ} (hX : 0 ≤ x) (hY : 0 ≤ y) {a b : Bool} (hSome : negatedIf a x ≠ 0)
    (hSame : negatedIf a x = negatedIf b y) : a = b ∧ x = y := by
  cases a <;> cases b
  · exact ⟨rfl, hSame⟩
  · change x = -y at hSame
    exact absurd (le_antisymm (hSame.trans_le (neg_nonpos.mpr hY)) hX) hSome
  · change -x = y at hSame
    exact absurd (le_antisymm (neg_nonpos.mpr hX) (hSame ▸ hY)) hSome
  · exact ⟨rfl, neg_injective hSame⟩

/-- Only zero has two patterns. -/
theorem eq_of_number? {a b : Nat} {q : ℚ} (hA : a < 2 * f.signBit) (hB : b < 2 * f.signBit)
    (hFirst : (f.decode a).number? = some q) (hSecond : (f.decode b).number? = some q) (hQ : q ≠ 0) : a = b := by
  have hUnit : (0 : ℚ) < 2 ^ f.leastExponent := by positivity
  obtain rfl := eq_of_number?_decode hFirst
  obtain ⟨hSigns, hSizes⟩ := negatedIf_inj (by positivity) (by positivity) hQ (eq_of_number?_decode hSecond)
  have hMagnitudes := eq_of_multiple (mul_right_cancel₀ hUnit.ne' hSizes)
  rw [← withSign_magnitudeBits hA, ← withSign_magnitudeBits hB, hSigns, hMagnitudes]

end SnippetService.BinaryFormat

namespace SnippetService

open BinaryFormat

section

variable {x : Float} {negative : Bool} {m : Nat} {e : Int}

/-- The significands and exponents of the doubles. -/
theorem ofDouble_range (hValue : BinaryValue.ofDouble x = .finite negative m e) :
    m < 2 ^ 53 ∧ -1074 ≤ e ∧ e ≤ 971 := by
  obtain ⟨-, k, rfl, hAbove, hBelow, hMagnitude, hFinite⟩ := decode_finite hValue
  rw [hMagnitude] at hFinite
  change k * 2 ^ 52 + m < 2047 * 2 ^ 52 at hFinite
  have hLeast : double.leastExponent = -1074 := rfl
  have hK : k ≤ 2045 := by
    rcases hBelow with hZero | hLarge
    · omega
    · change 2 ^ 52 ≤ m at hLarge
      omega
  exact ⟨hAbove, by omega, by omega⟩

/-- A decimal that is equal to the shortest digits of a double is rounded to this double, which is the nearest one. -/
theorem ofDecimal_shortest {nearestOnly : Bool} {digits : Nat} {exponent : Int}
    (hValue : BinaryValue.ofDouble x = .finite negative m e) (hM : 0 < m)
    (hDigits : (digits * 10 ^ exponent : ℚ) = (Shortest.ofDyadic .double nearestOnly m e).value) :
    double.ofDecimal negative digits exponent = x.toBits.toNat ∧
      double.Nearest (negatedIf negative (digits * 10 ^ exponent)) (negatedIf negative (m * 2 ^ e)) x.toBits.toNat := by
  obtain ⟨hSmall, hRange⟩ := ofDouble_range hValue
  obtain ⟨hSign, k, hExponent, hAbove, hBelow, hMagnitude, hFinite⟩ := decode_finite hValue
  obtain ⟨num, den, hDen, hQuotient, hOfDecimal⟩ := double.ofDecimal_eq negative digits exponent
  have hRounds := (Shortest.ofDyadic_spec nearestOnly hM hSmall hRange).2
  rw [← hDigits, ← hQuotient] at hRounds
  have hBinade : decide (m = 2 ^ double.fractionBits ∧ 0 < k) = (m == 2 ^ 52 && decide (-1074 < e)) := by
    have hLeast : double.leastExponent = -1074 := rfl
    rw [Bool.decide_and]
    exact congrArg ((m == 2 ^ 52) && ·) (decide_eq_decide.mpr (by omega))
  have hRound : double.roundQuotient num den = double.magnitudeBits x.toBits.toNat := by
    rw [hMagnitude] at hFinite ⊢
    exact roundQuotient_of_roundsTo (by decide) hM hAbove hBelow hFinite hDen (hBinade ▸ hExponent ▸ hRounds)
  have hBits : double.ofDecimal negative digits exponent = x.toBits.toNat := by
    rw [hOfDecimal, hRound, hSign]
    exact withSign_magnitudeBits x.toBits.toNat_lt
  refine ⟨hBits, ?_⟩
  obtain ⟨y, hNearest⟩ := nearest_roundQuotient (f := double) (by decide) hDen (hRound ▸ hFinite) negative
  rw [← hOfDecimal, hBits, hQuotient] at hNearest
  have hStands := hNearest.stands
  change (BinaryValue.ofDouble x).number? = _ at hStands
  rw [hValue] at hStands
  cases hStands
  exact hNearest

end

/-- The powers of ten behind the sizes of the doubles. -/
theorem powers_apart : (10 : ℚ) ^ (-397 : Int) < 2 ^ (-1075 : Int) ∧ (2 : ℚ) ^ (1024 : Int) < 10 ^ (398 : Int) := by
  have hLeast : 2 ^ 1075 < 10 ^ 397 := by decide +kernel
  have hGreatest : 2 ^ 1024 < 10 ^ 398 := by decide +kernel
  constructor
  · rw [zpow_neg, zpow_neg, inv_lt_inv₀ (by positivity) (by positivity)]
    exact_mod_cast hLeast
  · exact_mod_cast hGreatest

/-- A decimal of the size of a double is rounded; only decimals out of reach of all doubles are told by their size. -/
theorem doubleOfDecimal_eq (negative : Bool) {digits : Nat} {exponent : Int} (hDigits : digits ≠ 0)
    (hShort : digits.log2 < 1200) (hLow : (2 : ℚ) ^ (-1075 : Int) ≤ digits * 10 ^ exponent)
    (hHigh : (digits * 10 ^ exponent : ℚ) ≤ 2 ^ (1024 : Int)) :
    doubleOfDecimal negative digits exponent = doubleOfBits (double.ofDecimal negative digits exponent) := by
  obtain ⟨hEstimateLow, hEstimateHigh⟩ := Shortest.estimate_spec (t := digits.log2) (by omega)
  have hLeading : (2 : ℚ) ^ (digits.log2 : Int) ≤ digits := by exact_mod_cast Nat.log2_self_le hDigits
  have hNext : (digits : ℚ) < 2 ^ (digits.log2 : Int) * 2 := by
    rw [← zpow_add_one₀ two_ne_zero]
    exact_mod_cast Nat.lt_log2_self (n := digits)
  have hUnit : (0 : ℚ) < 10 ^ exponent := by positivity
  unfold doubleOfDecimal
  generalize (digits.log2 : Int) = t at *
  generalize t * 30103 / 100000 = estimate at *
  have hNotSmall : ¬estimate + exponent < -400 := by
    intro hSize
    refine absurd hLow (not_le.mpr ?_)
    calc (digits : ℚ) * 10 ^ exponent ≤ 10 ^ estimate * 10000 * 10 ^ exponent := by gcongr; linarith
      _ = 10 ^ (estimate + exponent + 4) := by
          rw [zpow_add₀ (by norm_num), zpow_add₀ (by norm_num)]
          norm_num
          ring
      _ ≤ 10 ^ (-397 : Int) := zpow_le_zpow_right₀ (by norm_num) (by omega)
      _ < 2 ^ (-1075 : Int) := powers_apart.1
  have hNotGreat : ¬400 < estimate + exponent := by
    intro hSize
    refine absurd hHigh (not_le.mpr ?_)
    calc (2 : ℚ) ^ (1024 : Int) < 10 ^ (398 : Int) := powers_apart.2
      _ ≤ 10 ^ (estimate + exponent - 3) := zpow_le_zpow_right₀ (by norm_num) (by omega)
      _ = 10 ^ estimate / 1000 * 10 ^ exponent := by
          rw [zpow_sub₀ (by norm_num), zpow_add₀ (by norm_num)]
          norm_num
          ring
      _ ≤ digits * 10 ^ exponent := by gcongr; linarith
  dsimp only
  rw [if_neg (by simp [hDigits, hNotSmall]), if_neg hNotGreat]

end SnippetService
