import Mathlib.Data.Nat.Digits.Lemmas
import SnippetService.Numeric.Shortest
import SnippetService.Proofs.Numeric.Nearest
import SnippetService.Proofs.Text.Digits
/-!
The shortest digits of a number stand for a decimal in its rounding interval. The search looks at one decimal grid after
another; the first point that it accepts is in the interval because it was compared with its ends, and the point of the
last grid is, because seventeen digits are always enough.
-/
namespace SnippetService

/-- The number that decimal digits stand for. -/
def DecimalDigits.value (d : DecimalDigits) : ℚ := Digits.toNat d.digits * 10 ^ (d.point - d.digits.length)

/-- Digits that can be written: at least one, each of them a digit, and no more than seventeen that are not zero at the
end. -/
structure DecimalDigits.Proper (d : DecimalDigits) : Prop where
  some : d.digits ≠ []
  small : ∀ n ∈ d.digits, n < 10
  short : Digits.toNat d.digits ≤ 10 ^ 17

namespace Shortest

/-- A decimal that rounds to `m * 2 ^ e`. In quarters of the unit in the last place it reaches two of them to either
side, or one below a number that begins a binade; the ends belong to the even number. -/
def RoundsTo (m : Nat) (e : Int) (binade : Bool) (q : ℚ) : Prop :=
  let low : ℚ := if binade then 4 * m - 1 else 4 * m - 2
  if m % 2 = 0 then low ≤ 4 * q / 2 ^ e ∧ 4 * q / 2 ^ e ≤ 4 * m + 2 else low < 4 * q / 2 ^ e ∧ 4 * q / 2 ^ e < 4 * m + 2

theorem ten_zpow_of_neg {k : Int} (hNegative : k < 0) : (10 : ℚ) ^ k = ((10 ^ (-k).toNat : ℕ) : ℚ)⁻¹ := by
  rw [Nat.cast_pow, Nat.cast_ofNat, ← zpow_natCast, ← zpow_neg, Int.toNat_of_nonneg (by omega), neg_neg]

theorem ten_zpow_of_nonneg {k : Int} (hPositive : 0 ≤ k) : (10 : ℚ) ^ k = (10 ^ k.toNat : ℕ) := by
  rw [Nat.cast_pow, Nat.cast_ofNat, ← zpow_natCast, Int.toNat_of_nonneg hPositive]

section

variable {num den : Nat}

theorem scale_spec (num : Nat) (hDen : 0 < den) (k : Int) :
    0 < (scale num den k).2 ∧ ((scale num den k).1 : ℚ) / (scale num den k).2 = num / den * 10 ^ k := by
  unfold scale
  split
  case isTrue hNegative =>
    refine ⟨Nat.mul_pos hDen (Nat.pow_pos (by decide)), ?_⟩
    rw [ten_zpow_of_neg hNegative, ← div_eq_mul_inv, div_div, ← Nat.cast_mul]
    rfl
  case isFalse hPositive =>
    refine ⟨hDen, ?_⟩
    rw [ten_zpow_of_nonneg (not_lt.mp hPositive), div_mul_eq_mul_div, ← Nat.cast_mul]
    rfl

/-- Going up from below, the first power that is greater is found. -/
theorem up_spec {below : Int → Bool} {k : Int} (fuel : Nat) (hAbove : below (k + fuel) = true)
    (hBelow : below (k - 1) = false) :
    below (decimalPoint.up below fuel k) = true ∧ below (decimalPoint.up below fuel k - 1) = false := by
  induction fuel generalizing k with
  | zero => exact ⟨by simpa [decimalPoint.up] using hAbove, hBelow⟩
  | succ fuel ih =>
      rw [decimalPoint.up]
      cases hHere : below k with
      | true => exact ⟨hHere, hBelow⟩
      | false =>
          refine ih ?_ (by rwa [add_sub_cancel_right])
          rwa [add_assoc, add_comm 1, ← Nat.cast_succ]

/-- The factor of the estimate is close enough to the logarithm of two, for all the exponents that there are. -/
theorem estimate_spec {t : Int} (hRange : -1200 < t ∧ t < 1200) :
    (10 : ℚ) ^ (t * 30103 / 100000) ≤ 2 ^ t * 500 ∧ (2 : ℚ) ^ t * 2 ≤ 10 ^ (t * 30103 / 100000) * 10000 := by
  have hUp : ∀ n < 1200, 10 ^ (n * 30103 / 100000) ≤ 2 ^ n * 500 ∧ 2 ^ n * 2 ≤ 10 ^ (n * 30103 / 100000) * 10000 := by
    decide +kernel
  have hDown : ∀ n < 1200, 2 ^ n ≤ 10 ^ ((n * 30103 + 99999) / 100000) * 500 ∧
      10 ^ ((n * 30103 + 99999) / 100000) * 2 ≤ 2 ^ n * 10000 := by
    decide +kernel
  rcases Int.le_total 0 t with hPositive | hNegative
  · obtain ⟨n, rfl⟩ := Int.eq_ofNat_of_zero_le hPositive
    obtain ⟨hLow, hHigh⟩ := hUp n (by omega)
    rw [show (n : Int) * 30103 / 100000 = (n * 30103 / 100000 : ℕ) by omega, zpow_natCast, zpow_natCast]
    exact ⟨by exact_mod_cast hLow, by exact_mod_cast hHigh⟩
  · obtain ⟨n, rfl⟩ : ∃ n : Nat, t = -n := ⟨t.natAbs, by omega⟩
    obtain ⟨hLow, hHigh⟩ := hDown n (by omega)
    rw [show -(n : Int) * 30103 / 100000 = -((n * 30103 + 99999) / 100000 : ℕ) by omega]
    generalize (n * 30103 + 99999) / 100000 = c at hLow hHigh
    have hLowQ : (2 : ℚ) ^ n ≤ 10 ^ c * 500 := by exact_mod_cast hLow
    have hHighQ : (10 : ℚ) ^ c * 2 ≤ 2 ^ n * 10000 := by exact_mod_cast hHigh
    rw [zpow_neg, zpow_neg, zpow_natCast, zpow_natCast, inv_mul_eq_div, inv_mul_eq_div, inv_mul_eq_div, inv_eq_one_div,
      div_le_div_iff₀ (by positivity) (by positivity), div_le_div_iff₀ (by positivity) (by positivity)]
    exact ⟨by linarith, by linarith⟩

theorem ten_zpow_le_iff (num : Nat) (hDen : 0 < den) (k : Int) :
    (scale num den (-k)).1 < (scale num den (-k)).2 ↔ (num : ℚ) / den < 10 ^ k := by
  obtain ⟨hPositive, hScale⟩ := scale_spec num hDen (-k)
  rw [← Nat.cast_lt (α := ℚ), ← div_lt_one (by exact_mod_cast hPositive), hScale, zpow_neg, ← div_eq_mul_inv,
    div_lt_one (by positivity)]

/-- The number is below the power of ten with the exponent of the point, and not below the one before it. -/
theorem decimalPoint_spec (hNum : num ≠ 0) (hDen : 0 < den)
    (hRange : -1200 < (num.log2 : Int) - den.log2 ∧ (num.log2 : Int) - den.log2 < 1200) :
    (10 : ℚ) ^ (decimalPoint num den - 1) ≤ num / den ∧ (num : ℚ) / den < 10 ^ decimalPoint num den := by
  obtain ⟨hEstimateLow, hEstimateHigh⟩ := estimate_spec hRange
  obtain ⟨hLow, hHigh⟩ := BinaryFormat.quotient_log2 hNum hDen
  unfold decimalPoint
  generalize ((num.log2 : Int) - den.log2) = t at *
  generalize t * 30103 / 100000 = estimate at *
  set below : Int → Bool := fun k => decide ((scale num den (-k)).1 < (scale num den (-k)).2)
  have hBelow (k : Int) : below k = true ↔ (num : ℚ) / den < 10 ^ k :=
    decide_eq_true_iff.trans (ten_zpow_le_iff num hDen k)
  have hAbove : below (estimate - 2 + 6) = true := by
    rw [hBelow, show estimate - 2 + 6 = estimate + 4 by ring, zpow_add₀ (by norm_num)]
    calc (num : ℚ) / den < 2 ^ (t + 1) := hHigh
      _ = 2 ^ t * 2 := by rw [zpow_add₀ two_ne_zero, zpow_one]
      _ ≤ 10 ^ estimate * 10000 := hEstimateHigh
      _ = 10 ^ estimate * 10 ^ (4 : Int) := by norm_num
  have hStart : below (estimate - 2 - 1) = false := by
    rw [Bool.eq_false_iff, Ne, hBelow, not_lt, show estimate - 2 - 1 = estimate - 3 by ring, zpow_sub₀ (by norm_num)]
    calc (10 : ℚ) ^ estimate / 10 ^ (3 : Int) ≤ 2 ^ t * 500 / 10 ^ (3 : Int) := by gcongr
      _ = 2 ^ (t - 1) := by rw [zpow_sub₀ two_ne_zero]; norm_num; ring
      _ ≤ num / den := hLow
  obtain ⟨hFound, hBefore⟩ := up_spec 6 hAbove hStart
  rw [hBelow] at hFound
  rw [Bool.eq_false_iff, Ne, hBelow, not_lt] at hBefore
  exact ⟨hBefore, hFound⟩

theorem roundDiv_close (hDen : 0 < den) : |(BinaryFormat.roundDiv num den : ℚ) - num / den| ≤ 1 / 2 := by
  have hFloor : ((num / den : ℕ) : ℚ) ≤ num / den := Nat.cast_div_le
  have hCeil : (num : ℚ) / den < (num / den + 1 : ℕ) := by
    rw [div_lt_iff₀ (by exact_mod_cast hDen), mul_comm]
    exact_mod_cast Nat.lt_mul_div_succ num hDen
  rw [BinaryFormat.roundDiv_eq hDen, abs_le]
  push_cast at hCeil ⊢
  split_ifs with hLow hHigh
  · exact ⟨by linarith, by linarith⟩
  · exact ⟨by linarith, by linarith⟩
  · rcases Nat.mod_two_eq_zero_or_one (num / den) with hParity | hParity <;> rw [hParity] <;> push_cast <;>
      exact ⟨by linarith, by linarith⟩

theorem nearest_close (num : Nat) (hDen : 0 < den) (k : Int) :
    |(nearest num den k : ℚ) - num / den * 10 ^ k| ≤ 1 / 2 := by
  obtain ⟨hPositive, hScale⟩ := scale_spec num hDen k
  rw [← hScale]
  exact roundDiv_close hPositive

/-- The points next to a number between two whole numbers are between them, too, unless the number is such a point. -/
theorem nearest_between (hDen : 0 < den) {k : Int} {a b : Nat} (hLow : (a : ℚ) ≤ num / den * 10 ^ k)
    (hHigh : (num : ℚ) / den * 10 ^ k < b) :
    (a ≤ nearest num den k ∧ nearest num den k ≤ b) ∧
      ((nearest num den k : ℚ) ≠ num / den * 10 ^ k → a ≤ other num den k ∧ other num den k ≤ b) := by
  obtain ⟨hPositive, hScale⟩ := scale_spec num hDen k
  obtain ⟨hBelow, hAbove⟩ := abs_le.mp (nearest_close num hDen k)
  have hFirst : a ≤ nearest num den k := Nat.lt_succ_iff.mp (by
    rw [← Nat.cast_lt (α := ℚ)]
    push_cast
    linarith)
  have hLast : nearest num den k ≤ b := Nat.lt_succ_iff.mp (by
    rw [← Nat.cast_lt (α := ℚ)]
    push_cast
    linarith)
  have hSide : nearest num den k * (scale num den k).2 < (scale num den k).1 ↔
      (nearest num den k : ℚ) < num / den * 10 ^ k := by
    rw [← hScale, lt_div_iff₀ (by exact_mod_cast hPositive)]
    exact_mod_cast Iff.rfl
  have hOther : other num den k =
      if (nearest num den k : ℚ) < num / den * 10 ^ k then nearest num den k + 1 else nearest num den k - 1 := by
    rw [← if_congr hSide rfl rfl]
    rfl
  refine ⟨⟨hFirst, hLast⟩, fun hOff => ?_⟩
  rw [hOther]
  split_ifs with hBefore
  · have hNext : nearest num den k < b := by
      rw [← Nat.cast_lt (α := ℚ)]
      linarith
    omega
  · have hBehind : a < nearest num den k := by
      rw [← Nat.cast_lt (α := ℚ)]
      exact lt_of_le_of_lt hLow (lt_of_le_of_ne (not_lt.mp hBefore) hOff.symm)
    omega

end

/-- The quotient `num / den` divided by `2 ^ e`, again as a quotient. -/
def halve (num den : Nat) (e : Int) : Nat × Nat :=
  if e < 0 then (num * Nat.pow 2 (-e).toNat, den) else (num, den * Nat.pow 2 e.toNat)

theorem halve_spec (num : Nat) {den : Nat} (hDen : 0 < den) (e : Int) :
    0 < (halve num den e).2 ∧ ((halve num den e).1 : ℚ) / (halve num den e).2 = num / den / 2 ^ e := by
  unfold halve
  split
  case isTrue hNegative =>
    refine ⟨hDen, ?_⟩
    rw [two_zpow_of_neg hNegative, div_inv_eq_mul, div_mul_eq_mul_div, ← Nat.cast_mul]
    rfl
  case isFalse hPositive =>
    refine ⟨Nat.mul_pos hDen (Nat.two_pow_pos _), ?_⟩
    rw [two_zpow_of_nonneg (not_lt.mp hPositive), div_div, ← Nat.cast_mul]
    rfl

theorem identifies_eq (m : Nat) (e : Int) (binade : Bool) (d : Nat) (k : Int) :
    identifies m e binade d k =
      let p := halve (scale (4 * d) 1 (-k)).1 (scale (4 * d) 1 (-k)).2 e
      let low := if binade then 4 * m - 1 else 4 * m - 2
      let high := 4 * m + 2
      if m % 2 == 0 then low * p.2 ≤ p.1 && p.1 ≤ high * p.2 else low * p.2 < p.1 && p.1 < high * p.2 := rfl

/-- The search accepts the points of the rounding interval. -/
theorem identifies_iff {m : Nat} (hM : 0 < m) (e : Int) (binade : Bool) (d : Nat) (k : Int) :
    identifies m e binade d k = true ↔ RoundsTo m e binade (d * 10 ^ (-k)) := by
  obtain ⟨hDen, hScale⟩ := scale_spec (4 * d) Nat.one_pos (-k)
  obtain ⟨hPositive, hHalve⟩ := halve_spec (scale (4 * d) 1 (-k)).1 hDen e
  have hUnits : 4 * (d * 10 ^ (-k)) / 2 ^ e = ((4 * d : ℕ) : ℚ) / (1 : ℕ) * 10 ^ (-k) / 2 ^ e := by
    push_cast
    ring
  have hLow : ((if binade then 4 * m - 1 else 4 * m - 2 : ℕ) : ℚ) = if binade then 4 * (m : ℚ) - 1 else 4 * m - 2 := by
    split <;> rw [Nat.cast_sub (by omega)] <;> push_cast <;> rfl
  have hHigh : 4 * (m : ℚ) + 2 = ((4 * m + 2 : ℕ) : ℚ) := by push_cast; rfl
  rw [identifies_eq, RoundsTo, hUnits, ← hScale, ← hHalve, ← hLow, hHigh]
  generalize halve (scale (4 * d) 1 (-k)).1 (scale (4 * d) 1 (-k)).2 e = p at hPositive ⊢
  have hPositiveQ : (0 : ℚ) < p.2 := by exact_mod_cast hPositive
  simp only [le_div_iff₀ hPositiveQ, lt_div_iff₀ hPositiveQ, div_le_iff₀ hPositiveQ, div_lt_iff₀ hPositiveQ,
    ← Nat.cast_mul, Nat.cast_le, Nat.cast_lt, beq_iff_eq]
  split <;> simp only [Bool.and_eq_true, decide_eq_true_eq]

theorem digitsOf_eq {n : Nat} (hN : n ≠ 0) : digitsOf n = (Nat.digits 10 n).reverse := by
  induction n using Nat.strongRecOn with
  | ind n ih =>
      rw [Nat.digits_def' (by decide) (Nat.pos_of_ne_zero hN), List.reverse_cons]
      have hLast : (n % 10).digitChar.toNat - 48 = n % 10 := by
        rw [Nat.toNat_digitChar_of_lt_ten (Nat.mod_lt n (by decide))]
        omega
      rcases Nat.lt_or_ge n 10 with hSmall | hLarge
      · rw [digitsOf, Nat.toDigits_of_lt_base hSmall, Nat.div_eq_of_lt hSmall]
        rw [Nat.mod_eq_of_lt hSmall] at hLast ⊢
        simp [hLast]
      · rw [digitsOf, Nat.toDigits_of_base_le (by decide) hLarge, List.map_append]
        have hRest := ih (n / 10) (by omega) (by omega)
        rw [digitsOf] at hRest
        rw [hRest]
        simp [hLast]

/-- Zeros behind digits count for places only. -/
theorem toNat_trim (ds : List Nat) :
    (trim ds).length ≤ ds.length ∧ Digits.toNat (trim ds) * 10 ^ (ds.length - (trim ds).length) = Digits.toNat ds := by
  rw [Digits.toNat_eq_ofDigits, Digits.toNat_eq_ofDigits, trim, List.reverse_reverse, List.length_reverse,
    ← @List.length_reverse _ ds]
  generalize ds.reverse = l
  induction l with
  | nil => exact ⟨Nat.le_refl _, rfl⟩
  | cons d l ih =>
      by_cases hZero : d = 0
      · obtain ⟨hLength, hValue⟩ := ih
        rw [hZero, List.dropWhile_cons_of_pos rfl, List.length_cons]
        refine ⟨by omega, ?_⟩
        rw [Nat.succ_sub hLength, pow_succ, ← mul_assoc, hValue, Nat.ofDigits_cons]
        simp [mul_comm]
      · rw [List.dropWhile_cons_of_neg (by simpa using hZero)]
        exact ⟨Nat.le_refl _, by simp⟩

theorem toNat_digitsOf {n : Nat} (hN : n ≠ 0) : Digits.toNat (digitsOf n) = n := by
  rw [Digits.toNat_eq_ofDigits, digitsOf_eq hN, List.reverse_reverse, Nat.ofDigits_digits]

theorem lt_ten_of_mem_digitsOf {n d : Nat} (hN : n ≠ 0) (hMem : d ∈ digitsOf n) : d < 10 := by
  rw [digitsOf_eq hN, List.mem_reverse] at hMem
  exact Nat.digits_lt_base (by decide) hMem

theorem length_digitsOf {n count : Nat} (hLow : 10 ^ count ≤ n) (hHigh : n < 10 ^ (count + 1)) :
    (digitsOf n).length = count + 1 := by
  have hN : n ≠ 0 := (lt_of_lt_of_le (Nat.pow_pos (by decide)) hLow).ne'
  rw [digitsOf_eq hN, List.length_reverse, Nat.length_digits 10 n (by decide) hN,
    Nat.log_eq_of_pow_le_of_lt_pow hLow hHigh]

/-- A point of the grid with `count` digits is assembled with its value, also if it has one digit more. -/
theorem assemble_spec {d count : Nat} (point : Int) (hCount : count < 17) (hLow : 10 ^ count ≤ d)
    (hHigh : d ≤ 10 ^ (count + 1)) :
    (assemble d (count + 1) point).Proper ∧
      (assemble d (count + 1) point).value = d * 10 ^ (point - (count + 1 : ℕ)) := by
  have hD : d ≠ 0 := (lt_of_lt_of_le (Nat.pow_pos (by decide)) hLow).ne'
  obtain ⟨hLength, hTrim⟩ := toNat_trim (digitsOf d)
  rw [toNat_digitsOf hD] at hTrim
  have hPlaces : (if count + 1 < (digitsOf d).length then point + 1 else point) - (digitsOf d).length =
      point - (count + 1 : ℕ) := by
    rcases Nat.lt_or_eq_of_le hHigh with hLess | hNext
    · rw [length_digitsOf hLow hLess, if_neg (Nat.lt_irrefl _)]
    · have hPower : d < 10 ^ (count + 1 + 1) := hNext ▸ Nat.pow_lt_pow_right (by decide) (Nat.lt_succ_self _)
      rw [length_digitsOf hNext.ge hPower, if_pos (Nat.lt_succ_self _)]
      push_cast
      ring
  refine ⟨⟨fun hNone => ?_, fun n hMem => ?_, ?_⟩, ?_⟩
  · rw [show trim (digitsOf d) = [] from hNone] at hTrim
    exact hD (hTrim.symm.trans (Nat.zero_mul _))
  · have hDigit : n ∈ digitsOf d := List.mem_reverse.mp
      ((List.dropWhile_sublist _).subset (List.mem_reverse.mp hMem))
    exact lt_ten_of_mem_digitsOf hD hDigit
  · calc Digits.toNat (trim (digitsOf d))
        ≤ Digits.toNat (trim (digitsOf d)) * 10 ^ ((digitsOf d).length - (trim (digitsOf d)).length) :=
          Nat.le_mul_of_pos_right _ (Nat.pow_pos (by decide))
      _ = d := hTrim
      _ ≤ 10 ^ (count + 1) := hHigh
      _ ≤ 10 ^ 17 := Nat.pow_le_pow_right (by decide) hCount
  · rw [DecimalDigits.value, assemble]
    dsimp only
    generalize (if count + 1 < (digitsOf d).length then point + 1 else point) = place at hPlaces ⊢
    generalize trim (digitsOf d) = ts at *
    generalize digitsOf d = ds at *
    rw [← hPlaces, ← hTrim, Nat.cast_mul, mul_assoc, Nat.cast_pow, Nat.cast_ofNat, ← zpow_natCast,
      ← zpow_add₀ (by norm_num), Nat.cast_sub hLength]
    congr 2
    ring

section

variable {f : BinaryFormat} {m num den : Nat} {e point : Int} {binade : Bool}

/-- A number is in its own rounding interval. -/
theorem roundsTo_self (m : Nat) (e : Int) (binade : Bool) : RoundsTo m e binade (m * 2 ^ e) := by
  have hUnits : 4 * ((m : ℚ) * 2 ^ e) / 2 ^ e = 4 * m := by
    rw [← mul_assoc, mul_div_cancel_right₀ _ (by positivity)]
  have hLow : (if binade then 4 * (m : ℚ) - 1 else 4 * m - 2) < 4 * m := by split <;> linarith
  rw [RoundsTo, hUnits]
  split
  · exact ⟨hLow.le, by linarith⟩
  · exact ⟨hLow, by linarith⟩

/-- What is closer than a quarter of a unit, or half a unit away from a binade's begin, is in the interval. -/
theorem roundsTo_of_close {q : ℚ} (hClose : |q - m * 2 ^ e| < (if binade then 1 / 4 else 1 / 2) * 2 ^ e) :
    RoundsTo m e binade q := by
  have hUnit : (0 : ℚ) < 2 ^ e := by positivity
  obtain ⟨hBelow, hAbove⟩ := abs_lt.mp hClose
  have hLow : (if binade then 4 * (m : ℚ) - 1 else 4 * m - 2) < 4 * q / 2 ^ e := by
    rw [lt_div_iff₀ hUnit]
    cases binade <;> simp only [Bool.false_eq_true, if_true, if_false] at hBelow ⊢ <;> linarith
  have hHigh : 4 * q / 2 ^ e < 4 * m + 2 := by
    rw [div_lt_iff₀ hUnit]
    split at hAbove <;> linarith
  rw [RoundsTo]
  split
  · exact ⟨hLow.le, hHigh.le⟩
  · exact ⟨hLow, hHigh⟩

/-- Seventeen digits are enough: the nearest point of their grid is in the interval. -/
theorem roundsTo_seventeen (hM : m < 2 ^ 53) (hBinade : binade = true → m = 2 ^ 52) (hDen : 0 < den)
    (hNumber : (num : ℚ) / den = m * 2 ^ e) (hPoint : (10 : ℚ) ^ (point - 1) ≤ num / den) :
    RoundsTo m e binade (nearest num den (17 - point) * 10 ^ (point - 17)) := by
  have hUnit : (0 : ℚ) < 2 ^ e := by positivity
  have hStep : (0 : ℚ) < 10 ^ (point - 17) := by positivity
  have hGrid : (10 : ℚ) ^ (point - 17) ≤ m * 2 ^ e / 10 ^ 16 := by
    rwa [← hNumber, le_div_iff₀ (by norm_num), ← zpow_natCast, ← zpow_add₀ (by norm_num),
      show point - 17 + (16 : ℕ) = point - 1 by omega]
  have hScaled : (num : ℚ) / den * 10 ^ (17 - point) * 10 ^ (point - 17) = m * 2 ^ e := by
    rw [mul_assoc, ← zpow_add₀ (by norm_num), show (17 - point) + (point - 17) = 0 by ring, zpow_zero, mul_one, hNumber]
  have hSignificand : (m : ℚ) / 10 ^ 16 / 2 < if binade then 1 / 4 else 1 / 2 := by
    split
    case isTrue hBegin =>
      rw [hBinade hBegin]
      norm_num
    case isFalse =>
      have hMQ : (m : ℚ) < 2 ^ 53 := by exact_mod_cast hM
      linarith
  refine roundsTo_of_close ?_
  rw [← hScaled, ← sub_mul, abs_mul, abs_of_pos hStep]
  calc |(nearest num den (17 - point) : ℚ) - num / den * 10 ^ (17 - point)| * 10 ^ (point - 17)
      ≤ 1 / 2 * (m * 2 ^ e / 10 ^ 16) := by
        gcongr
        exact nearest_close num hDen _
    _ = m / 10 ^ 16 / 2 * 2 ^ e := by ring
    _ < (if binade then 1 / 4 else 1 / 2) * 2 ^ e := by gcongr

/-- On the grid of a number of digits, a number is between the least and the greatest number of so many digits. -/
theorem grid_range {v : ℚ} (count : Nat) (hPoint : (10 : ℚ) ^ (point - 1) ≤ v ∧ v < 10 ^ point) :
    ((10 ^ count : ℕ) : ℚ) ≤ v * 10 ^ ((count + 1 : ℕ) - point) ∧
      v * 10 ^ ((count + 1 : ℕ) - point) < (10 ^ (count + 1) : ℕ) := by
  have hScale : (0 : ℚ) < 10 ^ ((count + 1 : ℕ) - point) := by positivity
  constructor
  · calc ((10 ^ count : ℕ) : ℚ) = 10 ^ (point - 1) * 10 ^ ((count + 1 : ℕ) - point) := by
          rw [← zpow_add₀ (by norm_num), show point - 1 + ((count + 1 : ℕ) - point) = (count : ℕ) by push_cast; ring,
            zpow_natCast]
          push_cast
          rfl
      _ ≤ v * 10 ^ ((count + 1 : ℕ) - point) := by gcongr; exact hPoint.1
  · calc v * 10 ^ ((count + 1 : ℕ) - point) < 10 ^ point * 10 ^ ((count + 1 : ℕ) - point) := by gcongr; exact hPoint.2
      _ = (10 ^ (count + 1) : ℕ) := by
          rw [← zpow_add₀ (by norm_num), add_sub_cancel, zpow_natCast]
          push_cast
          rfl

/-- The digits that are found can be written, and stand for a number in the interval. -/
theorem search_spec (nearestOnly : Bool) {fuel count : Nat} (hM : 0 < m) (hSmall : m < 2 ^ 53)
    (hBinade : binade = true → m = 2 ^ 52) (hDen : 0 < den) (hNumber : (num : ℚ) / den = m * 2 ^ e)
    (hPoint : (10 : ℚ) ^ (point - 1) ≤ num / den ∧ (num : ℚ) / den < 10 ^ point) (hCount : count + 1 + fuel = 17) :
    (search nearestOnly m e binade num den point fuel (count + 1)).Proper ∧
      RoundsTo m e binade (search nearestOnly m e binade num den point fuel (count + 1)).value := by
  induction fuel generalizing count with
  | zero =>
      obtain rfl : count = 16 := by omega
      obtain ⟨hLow, hHigh⟩ := grid_range 16 hPoint
      obtain ⟨⟨hFirst, hLast⟩, -⟩ := nearest_between hDen hLow hHigh
      obtain ⟨hProper, hValue⟩ := assemble_spec point (by decide) hFirst hLast
      refine ⟨hProper, ?_⟩
      rw [search, hValue]
      exact roundsTo_seventeen hSmall hBinade hDen hNumber hPoint.1
  | succ fuel ih =>
      obtain ⟨hLow, hHigh⟩ := grid_range count hPoint
      obtain ⟨⟨hFirst, hLast⟩, hNext⟩ := nearest_between hDen hLow hHigh
      have hBack : -(((count + 1 : ℕ) : Int) - point) = point - (count + 1 : ℕ) := neg_sub _ _
      -- Both candidates are taken in the same way.
      have hTaken {d : Nat} (hRange : 10 ^ count ≤ d ∧ d ≤ 10 ^ (count + 1))
          (hAccepted : identifies m e binade d ((count + 1 : ℕ) - point) = true) :
          (assemble d (count + 1) point).Proper ∧ RoundsTo m e binade (assemble d (count + 1) point).value := by
        obtain ⟨hProper, hValue⟩ := assemble_spec point (by omega) hRange.1 hRange.2
        rw [identifies_iff hM, hBack] at hAccepted
        exact ⟨hProper, hValue ▸ hAccepted⟩
      rw [search]
      split_ifs with hNear hOther
      · exact hTaken ⟨hFirst, hLast⟩ hNear
      · rw [Bool.and_eq_true] at hOther
        refine hTaken (hNext fun hExact => hNear ?_) hOther.2
        rw [identifies_iff hM, hExact, mul_assoc, ← zpow_add₀ (by norm_num), add_neg_cancel, zpow_zero, mul_one,
          hNumber]
        exact roundsTo_self m e binade
      · exact ih (by omega)

end

/-- The estimate is good for the size of a double. -/
theorem log2_range {m num den : Nat} {e : Int} (hM : 0 < m) (hSmall : m < 2 ^ 53) (hExponent : -1074 ≤ e ∧ e ≤ 971)
    (hNum : num ≠ 0) (hDen : 0 < den) (hNumber : (num : ℚ) / den = m * 2 ^ e) :
    -1200 < (num.log2 : Int) - den.log2 ∧ (num.log2 : Int) - den.log2 < 1200 := by
  obtain ⟨hLow, hHigh⟩ := BinaryFormat.quotient_log2 hNum hDen
  rw [hNumber] at hLow hHigh
  have hUnit : (0 : ℚ) < 2 ^ e := by positivity
  have hMLow : (1 : ℚ) ≤ m := by exact_mod_cast hM
  have hMHigh : (m : ℚ) < 2 ^ (53 : Int) := by exact_mod_cast hSmall
  have hLeast : (2 : ℚ) ^ e < 2 ^ ((num.log2 : Int) - den.log2 + 1) :=
    (le_mul_of_one_le_left hUnit.le hMLow).trans_lt hHigh
  have hGreatest : (2 : ℚ) ^ ((num.log2 : Int) - den.log2 - 1) < 2 ^ (53 + e) := by
    rw [zpow_add₀ two_ne_zero]
    exact hLow.trans_lt (mul_lt_mul_of_pos_right hMHigh hUnit)
  rw [zpow_lt_zpow_iff_right₀ one_lt_two] at hLeast hGreatest
  omega

/-- What rounds to a double is about as great as a double. -/
theorem RoundsTo.range {m : Nat} {e : Int} {binade : Bool} {q : ℚ} (hRounds : RoundsTo m e binade q) (hM : 0 < m)
    (hSmall : m < 2 ^ 53) (hExponent : -1074 ≤ e ∧ e ≤ 971) : (2 : ℚ) ^ (-1075 : Int) ≤ q ∧ q ≤ 2 ^ (1024 : Int) := by
  have hUnit : (0 : ℚ) < 2 ^ e := by positivity
  have hLow : (4 * m - 2 : ℚ) ≤ if binade then 4 * (m : ℚ) - 1 else 4 * m - 2 := by split <;> linarith
  obtain ⟨hAbove, hBelow⟩ : 4 * (m : ℚ) - 2 ≤ 4 * q / 2 ^ e ∧ 4 * q / 2 ^ e ≤ 4 * m + 2 := by
    rw [RoundsTo] at hRounds
    split at hRounds
    · exact ⟨hLow.trans hRounds.1, hRounds.2⟩
    · exact ⟨hLow.trans hRounds.1.le, hRounds.2.le⟩
  rw [le_div_iff₀ hUnit] at hAbove
  rw [div_le_iff₀ hUnit] at hBelow
  have hMLow : (1 : ℚ) ≤ m := by exact_mod_cast hM
  have hMHigh : (m : ℚ) + 1 ≤ 2 ^ 53 := by exact_mod_cast hSmall
  constructor
  · calc (2 : ℚ) ^ (-1075 : Int) ≤ 2 ^ (e - 1) := zpow_le_zpow_right₀ one_le_two (by omega)
      _ = 1 * 2 ^ e / 2 := by rw [zpow_sub_one₀ two_ne_zero, one_mul, div_eq_mul_inv]
      _ ≤ (2 * m - 1) * 2 ^ e / 2 := by gcongr; linarith
      _ ≤ q := by linarith
  · calc q ≤ (m + 1) * 2 ^ e := by linarith
      _ ≤ 2 ^ 53 * 2 ^ e := by gcongr
      _ = 2 ^ (53 + e) := by rw [zpow_add₀ two_ne_zero]; rfl
      _ ≤ 2 ^ (1024 : Int) := zpow_le_zpow_right₀ one_le_two (by omega)

/-- The shortest digits of a positive double can be written, and stand for a number that rounds to it. -/
theorem ofDyadic_spec (nearestOnly : Bool) {m : Nat} {e : Int} (hM : 0 < m) (hSmall : m < 2 ^ 53)
    (hExponent : -1074 ≤ e ∧ e ≤ 971) :
    (ofDyadic .double nearestOnly m e).Proper ∧
      RoundsTo m e (m == 2 ^ 52 && decide (-1074 < e)) (ofDyadic .double nearestOnly m e).value := by
  obtain ⟨num, den, hDigits, hNum, hDen, hNumber⟩ : ∃ num den : Nat,
      ofDyadic .double nearestOnly m e =
        search nearestOnly m e (m == 2 ^ 52 && decide (-1074 < e)) num den (decimalPoint num den) 16 (0 + 1) ∧
      num ≠ 0 ∧ 0 < den ∧ (num : ℚ) / den = m * 2 ^ e := by
    unfold ofDyadic
    rcases lt_or_ge e 0 with hNegative | hPositive
    · refine ⟨m, 2 ^ (-e).toNat, by rw [if_pos hNegative]; rfl, hM.ne', Nat.two_pow_pos _, ?_⟩
      rw [two_zpow_of_neg hNegative, div_eq_mul_inv]
    · refine ⟨m * 2 ^ e.toNat, 1, by rw [if_neg (not_lt.mpr hPositive)]; rfl,
        (Nat.mul_pos hM (Nat.two_pow_pos _)).ne', Nat.one_pos, ?_⟩
      rw [two_zpow_of_nonneg hPositive, Nat.cast_mul, Nat.cast_one, div_one]
  have hPoint := decimalPoint_spec hNum hDen (log2_range hM hSmall hExponent hNum hDen hNumber)
  have hBinade : (m == 2 ^ 52 && decide (-1074 < e)) = true → m = 2 ^ 52 := fun hBegin => by
    rw [Bool.and_eq_true, beq_iff_eq] at hBegin
    exact hBegin.1
  rw [hDigits]
  exact search_spec nearestOnly hM hSmall hBinade hDen hNumber hPoint rfl

end Shortest

end SnippetService
