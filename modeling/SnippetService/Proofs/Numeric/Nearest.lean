import Mathlib.Algebra.Order.Field.Power
import Mathlib.Algebra.Order.Field.Rat
import Mathlib.Data.Nat.Cast.Order.Field
import Mathlib.Order.Monotone.Basic
import Mathlib.Tactic.FieldSimp
import Mathlib.Tactic.Linarith
import Mathlib.Tactic.Positivity
import Mathlib.Tactic.Ring
import SnippetService.Numeric.Arithmetic
/-!
Rounding to a binary format is correct. The patterns of a format stand for multiples of its least member, in their
order, so a number lies between two neighbours; rounding gives the nearer one, and in the middle the even one. A number
becomes infinite exactly if it reaches the middle between the greatest member and the number that would follow it.
-/
namespace SnippetService

/-- A number with the sign that it is given. -/
def negatedIf (negative : Bool) (x : ℚ) : ℚ := if negative then -x else x

/-- The number that a value stands for, if it is finite. -/
def BinaryValue.number? : BinaryValue → Option ℚ
  | .finite negative magnitude exponent => some (negatedIf negative (magnitude * 2 ^ exponent))
  | _ => none

theorem BinaryValue.exists_finite {v : BinaryValue} {q : ℚ} (hNumber : v.number? = some q) :
    ∃ negative magnitude exponent, v = .finite negative magnitude exponent ∧
      q = negatedIf negative (magnitude * 2 ^ exponent) := by
  cases v with
  | nan => cases hNumber
  | infinity negative => cases hNumber
  | finite negative magnitude exponent => exact ⟨negative, magnitude, exponent, rfl, (Option.some.inj hNumber).symm⟩

theorem two_zpow_of_neg {e : Int} (hNegative : e < 0) : (2 : ℚ) ^ e = ((2 ^ (-e).toNat : ℕ) : ℚ)⁻¹ := by
  rw [Nat.cast_pow, Nat.cast_ofNat, ← zpow_natCast, ← zpow_neg, Int.toNat_of_nonneg (by omega), neg_neg]

theorem two_zpow_of_nonneg {e : Int} (hPositive : 0 ≤ e) : (2 : ℚ) ^ e = (2 ^ e.toNat : ℕ) := by
  rw [Nat.cast_pow, Nat.cast_ofNat, ← zpow_natCast, Int.toNat_of_nonneg hPositive]

namespace BinaryFormat

variable (f : BinaryFormat)

/-- The multiple of the least member that a pattern without a sign stands for. The patterns from that of infinity on go
on as if the exponent had no bound. -/
def multiple (bits : Nat) : Nat :=
  if bits / 2 ^ f.fractionBits = 0 then bits % 2 ^ f.fractionBits
  else (2 ^ f.fractionBits + bits % 2 ^ f.fractionBits) * 2 ^ (bits / 2 ^ f.fractionBits - 1)

/-- The nearer one of two neighbours that a number lies between, the even one if the number is in the middle. -/
def nearer (x : ℚ) (low : Nat) : Nat :=
  if 2 * x < f.multiple low + f.multiple (low + 1) then low
  else if (f.multiple low + f.multiple (low + 1) : ℚ) < 2 * x then low + 1
  else low + low % 2

/-- A pattern is put together from an exponent and a fraction. -/
theorem multiple_fields {field fraction : Nat} (hFraction : fraction < 2 ^ f.fractionBits) :
    f.multiple (field * 2 ^ f.fractionBits + fraction) =
      if field = 0 then fraction else (2 ^ f.fractionBits + fraction) * 2 ^ (field - 1) := by
  have hPositive : 0 < 2 ^ f.fractionBits := Nat.two_pow_pos _
  have hDiv : (field * 2 ^ f.fractionBits + fraction) / 2 ^ f.fractionBits = field := by
    rw [Nat.add_comm, Nat.add_mul_div_right _ _ hPositive, Nat.div_eq_of_lt hFraction, Nat.zero_add]
  have hMod : (field * 2 ^ f.fractionBits + fraction) % 2 ^ f.fractionBits = fraction := by
    rw [Nat.add_comm, Nat.add_mul_mod_self_right, Nat.mod_eq_of_lt hFraction]
  rw [multiple, hDiv, hMod]

/-- It is also put together from an exponent and a significand, which may carry into the exponent. -/
theorem multiple_eq {k q : Nat} (hAbove : q ≤ 2 ^ (f.fractionBits + 1)) (hBelow : k = 0 ∨ 2 ^ f.fractionBits ≤ q) :
    f.multiple (k * 2 ^ f.fractionBits + q) = q * 2 ^ k := by
  have hPositive : 0 < 2 ^ f.fractionBits := Nat.two_pow_pos _
  rw [pow_succ] at hAbove
  rcases Nat.lt_or_ge q (2 ^ f.fractionBits) with hSmall | hLarge
  · obtain rfl := hBelow.resolve_right (Nat.not_le.mpr hSmall)
    rw [f.multiple_fields hSmall, if_pos rfl, pow_zero, Nat.mul_one]
  · obtain ⟨r, rfl⟩ := Nat.exists_eq_add_of_le hLarge
    rcases Nat.lt_or_ge r (2 ^ f.fractionBits) with hFraction | hCarry
    · rw [← Nat.add_assoc, ← Nat.succ_mul, f.multiple_fields hFraction, if_neg (Nat.succ_ne_zero k)]
      rfl
    · obtain rfl : r = 2 ^ f.fractionBits := by omega
      have hNext : k * 2 ^ f.fractionBits + (2 ^ f.fractionBits + 2 ^ f.fractionBits) =
          (k + 2) * 2 ^ f.fractionBits + 0 := by ring
      rw [hNext, f.multiple_fields hPositive, if_neg (Nat.succ_ne_zero _), Nat.add_zero]
      change _ * 2 ^ (k + 1) = _
      ring

theorem multiple_zero : f.multiple 0 = 0 := by
  simpa using f.multiple_eq (k := 0) (q := 0) (Nat.zero_le _) (.inl rfl)

/-- Every pattern is put together so. -/
theorem exists_significand (bits : Nat) : ∃ k q, bits = k * 2 ^ f.fractionBits + q ∧
    q < 2 ^ (f.fractionBits + 1) ∧ (k = 0 ∨ 2 ^ f.fractionBits ≤ q) := by
  have hPositive : 0 < 2 ^ f.fractionBits := Nat.two_pow_pos _
  rw [pow_succ]
  generalize 2 ^ f.fractionBits = p at *
  have hFraction := Nat.mod_lt bits hPositive
  have hSplit := Nat.div_add_mod' bits p
  cases hField : bits / p with
  | zero =>
      rw [hField] at hSplit
      exact ⟨0, bits % p, by omega, by omega, .inl rfl⟩
  | succ k =>
      rw [hField] at hSplit
      rw [Nat.succ_mul] at hSplit
      exact ⟨k, p + bits % p, by omega, by omega, .inr (Nat.le_add_right _ _)⟩

theorem multiple_strictMono : StrictMono f.multiple := by
  refine strictMono_nat_of_lt_succ fun bits => ?_
  obtain ⟨k, q, rfl, hAbove, hBelow⟩ := f.exists_significand bits
  rw [Nat.add_assoc, f.multiple_eq hAbove.le hBelow, f.multiple_eq hAbove (hBelow.imp_right Nat.le_succ_of_le)]
  exact Nat.mul_lt_mul_of_pos_right (Nat.lt_succ_self q) (Nat.two_pow_pos k)

section

variable {f} {x : ℚ} {low : Nat}

/-- A pattern is at or below the lower neighbour, or at or above the higher one. -/
theorem distance_cases (hLow : f.multiple low ≤ x) (hHigh : x < f.multiple (low + 1)) (other : Nat) :
    ((f.multiple other : ℚ) ≤ f.multiple low ∧ |x - f.multiple other| = x - f.multiple other) ∨
    ((f.multiple (low + 1) : ℚ) ≤ f.multiple other ∧ |x - f.multiple other| = f.multiple other - x) := by
  rcases Nat.lt_or_ge low other with hAfter | hBefore
  · have hOrder : (f.multiple (low + 1) : ℚ) ≤ f.multiple other := by
      exact_mod_cast f.multiple_strictMono.monotone hAfter
    refine .inr ⟨hOrder, ?_⟩
    rw [abs_of_nonpos (by linarith)]
    ring
  · have hOrder : (f.multiple other : ℚ) ≤ f.multiple low := by
      exact_mod_cast f.multiple_strictMono.monotone hBefore
    exact .inl ⟨hOrder, abs_of_nonneg (by linarith)⟩

theorem eq_of_multiple {a b : Nat} (hSame : (f.multiple a : ℚ) = f.multiple b) : a = b :=
  f.multiple_strictMono.injective (by exact_mod_cast hSame)

/-- Between two neighbours no pattern is closer than the nearer one, and none is as close unless the nearer one is
even. -/
theorem nearer_nearest (hLow : f.multiple low ≤ x) (hHigh : x < f.multiple (low + 1)) (other : Nat) :
    |x - f.multiple (f.nearer x low)| ≤ |x - f.multiple other| ∧
    (|x - f.multiple (f.nearer x low)| = |x - f.multiple other| →
      other = f.nearer x low ∨ f.nearer x low % 2 = 0) := by
  have hBelow : |x - f.multiple low| = x - f.multiple low := abs_of_nonneg (by linarith)
  have hAbove : |x - f.multiple (low + 1)| = f.multiple (low + 1) - x := by
    rw [abs_of_nonpos (by linarith)]
    ring
  have hOther := distance_cases hLow hHigh other
  unfold nearer
  split_ifs with hNearLow hNearHigh
  · rw [hBelow]
    rcases hOther with ⟨hOrder, hDistance⟩ | ⟨hOrder, hDistance⟩
    · exact ⟨by linarith, fun hSame => .inl (eq_of_multiple (by linarith))⟩
    · exact ⟨by linarith, fun hSame => by linarith⟩
  · rw [hAbove]
    rcases hOther with ⟨hOrder, hDistance⟩ | ⟨hOrder, hDistance⟩
    · exact ⟨by linarith, fun hSame => by linarith⟩
    · exact ⟨by linarith, fun hSame => .inl (eq_of_multiple (by linarith))⟩
  · have hMiddle : |x - f.multiple (low + low % 2)| = x - f.multiple low := by
      rcases Nat.mod_two_eq_zero_or_one low with hEven | hOdd
      · rw [hEven, Nat.add_zero, hBelow]
      · rw [hOdd, hAbove]
        linarith
    rw [hMiddle]
    refine ⟨?_, fun _ => .inr (by omega)⟩
    rcases hOther with ⟨hOrder, hDistance⟩ | ⟨hOrder, hDistance⟩
    · linarith
    · linarith

/-- The nearer neighbour reaches an even pattern exactly if the number reaches the middle below this pattern. -/
theorem le_nearer_iff (hLow : f.multiple low ≤ x) (hHigh : x < f.multiple (low + 1)) {bound : Nat}
    (hEven : (bound + 1) % 2 = 0) :
    bound + 1 ≤ f.nearer x low ↔ (f.multiple bound + f.multiple (bound + 1) : ℚ) ≤ 2 * x := by
  rcases lt_trichotomy low bound with hBelow | rfl | hAbove
  · have hNext : (f.multiple (low + 1) : ℚ) ≤ f.multiple bound := by
      exact_mod_cast f.multiple_strictMono.monotone hBelow
    have hLast : (f.multiple bound : ℚ) < f.multiple (bound + 1) := by
      exact_mod_cast f.multiple_strictMono (Nat.lt_succ_self bound)
    refine iff_of_false ?_ (by linarith)
    unfold nearer
    split_ifs <;> omega
  · unfold nearer
    split_ifs with hNearLow hNearHigh
    · exact iff_of_false (by omega) (by linarith)
    · exact iff_of_true le_rfl (by linarith)
    · exact iff_of_true (by omega) (by linarith)
  · have hFirst : (f.multiple (bound + 1) : ℚ) ≤ f.multiple low := by
      exact_mod_cast f.multiple_strictMono.monotone hAbove
    have hLast : (f.multiple bound : ℚ) < f.multiple (bound + 1) := by
      exact_mod_cast f.multiple_strictMono (Nat.lt_succ_self bound)
    refine iff_of_true ?_ (by linarith)
    unfold nearer
    split_ifs <;> omega

end

section

variable {f} {num den : Nat}

/-- Dividing and rounding, in numbers: the whole part, or the next number, or the even one of them. -/
theorem roundDiv_eq (hDen : 0 < den) :
    roundDiv num den =
      if 2 * ((num : ℚ) / den) < (num / den : ℕ) + (num / den + 1 : ℕ) then num / den
      else if ((num / den : ℕ) + (num / den + 1 : ℕ) : ℚ) < 2 * ((num : ℚ) / den) then num / den + 1
      else num / den + num / den % 2 := by
  have hDenQ : (0 : ℚ) < den := by exact_mod_cast hDen
  have hSplit : (num : ℚ) = den * (num / den : ℕ) + (num % den : ℕ) := by exact_mod_cast (Nat.div_add_mod num den).symm
  have hTwice : 2 * ((num : ℚ) / den) = 2 * (num / den : ℕ) + (2 * (num % den) : ℕ) / den := by
    rw [hSplit]
    push_cast
    field_simp
  have hSum : (((num / den : ℕ) : ℚ) + (num / den + 1 : ℕ)) = 2 * (num / den : ℕ) + 1 := by
    push_cast
    ring
  have hLess : 2 * ((num : ℚ) / den) < (num / den : ℕ) + (num / den + 1 : ℕ) ↔ 2 * (num % den) < den := by
    rw [hSum, hTwice, add_lt_add_iff_left, div_lt_one hDenQ, Nat.cast_lt]
  have hMore : ((num / den : ℕ) + (num / den + 1 : ℕ) : ℚ) < 2 * ((num : ℚ) / den) ↔ den < 2 * (num % den) := by
    rw [hSum, hTwice, add_lt_add_iff_left, one_lt_div hDenQ, Nat.cast_lt]
  simp only [roundDiv, hLess, hMore]

/-- Scaling and rounding is dividing and rounding. -/
theorem roundScaled_eq (num : Nat) (hDen : 0 < den) (e : Int) :
    ∃ n d : Nat, 0 < d ∧ roundScaled num den e = roundDiv n d ∧ (n : ℚ) / d = num / den / 2 ^ e := by
  unfold roundScaled
  split
  case isTrue hNegative =>
    refine ⟨num * 2 ^ (-e).toNat, den, hDen, rfl, ?_⟩
    rw [two_zpow_of_neg hNegative, div_inv_eq_mul]
    push_cast
    ring
  case isFalse hPositive =>
    refine ⟨num, den * 2 ^ e.toNat, by positivity, rfl, ?_⟩
    rw [two_zpow_of_nonneg (not_lt.mp hPositive), div_div]
    push_cast
    rfl

/-- A test that two products compare as the quotient and a power of two do. -/
theorem reaches_iff (hDen : 0 < den) (t : Int) :
    (if t < 0 then den ≤ num * Nat.pow 2 (-t).toNat else den * Nat.pow 2 t.toNat ≤ num) ↔
      (2 : ℚ) ^ t ≤ num / den := by
  have hDenQ : (0 : ℚ) < den := by exact_mod_cast hDen
  split
  case isTrue hNegative =>
    rw [two_zpow_of_neg hNegative, le_div_iff₀ hDenQ, inv_mul_le_iff₀ (by positivity), mul_comm]
    exact ⟨fun h => by exact_mod_cast h, fun h => by exact_mod_cast h⟩
  case isFalse hPositive =>
    rw [two_zpow_of_nonneg (not_lt.mp hPositive), le_div_iff₀ hDenQ, mul_comm]
    exact ⟨fun h => by exact_mod_cast h, fun h => by exact_mod_cast h⟩

/-- The size of a quotient, by the sizes of its parts. -/
theorem quotient_log2 (hNum : num ≠ 0) (hDen : 0 < den) :
    (2 : ℚ) ^ ((num.log2 : Int) - den.log2 - 1) ≤ num / den ∧
      (num : ℚ) / den < 2 ^ ((num.log2 : Int) - den.log2 + 1) := by
  have hDenQ : (0 : ℚ) < den := by exact_mod_cast hDen
  have hNumLow : (2 : ℚ) ^ (num.log2 : Int) ≤ num := by exact_mod_cast Nat.log2_self_le hNum
  have hNumHigh : (num : ℚ) < 2 ^ ((num.log2 : Int) + 1) := by exact_mod_cast Nat.lt_log2_self (n := num)
  have hDenLow : (2 : ℚ) ^ (den.log2 : Int) ≤ den := by exact_mod_cast Nat.log2_self_le hDen.ne'
  have hDenHigh : (den : ℚ) < 2 ^ ((den.log2 : Int) + 1) := by exact_mod_cast Nat.lt_log2_self (n := den)
  generalize (num.log2 : Int) = a at *
  generalize (den.log2 : Int) = d at *
  constructor
  · rw [le_div_iff₀ hDenQ]
    calc (2 : ℚ) ^ (a - d - 1) * den ≤ 2 ^ (a - d - 1) * 2 ^ (d + 1) := by gcongr
      _ = 2 ^ a := by rw [← zpow_add₀ two_ne_zero]; congr 1; ring
      _ ≤ num := hNumLow
  · rw [div_lt_iff₀ hDenQ]
    calc (num : ℚ) < 2 ^ (a + 1) := hNumHigh
      _ = 2 ^ (a - d + 1) * 2 ^ d := by rw [← zpow_add₀ two_ne_zero]; congr 1; ring
      _ ≤ 2 ^ (a - d + 1) * den := by gcongr

/-- The unit in the last place fits the number: it is not too small, and only for the smallest numbers too great. -/
theorem unitExponent_spec (hNum : num ≠ 0) (hDen : 0 < den) :
    f.leastExponent ≤ f.unitExponent num den ∧
    (num : ℚ) / den < 2 ^ (f.unitExponent num den + f.fractionBits + 1) ∧
    (f.unitExponent num den = f.leastExponent ∨
      (2 : ℚ) ^ (f.unitExponent num den + f.fractionBits) ≤ num / den) := by
  obtain ⟨hLow, hHigh⟩ := quotient_log2 hNum hDen
  generalize hLogs : (num.log2 : Int) = a at *
  generalize hLogsDen : (den.log2 : Int) = d at *
  -- Whether the greater power is reached decides between the two exponents.
  have hGuess : ∃ g : Int, f.unitExponent num den = Max.max f.leastExponent g ∧
      (2 : ℚ) ^ (g + f.fractionBits) ≤ num / den ∧ (num : ℚ) / den < 2 ^ (g + f.fractionBits + 1) := by
    simp only [unitExponent, hLogs, hLogsDen, reaches_iff hDen, sub_add_cancel]
    split
    case isTrue hReaches => exact ⟨_, rfl, by rwa [sub_add_cancel], by rwa [sub_add_cancel]⟩
    case isFalse hMisses =>
      refine ⟨_, rfl, ?_, ?_⟩
      · rwa [show a - d - f.fractionBits - 1 + f.fractionBits = a - d - 1 by ring]
      · rw [show a - d - f.fractionBits - 1 + f.fractionBits + 1 = a - d by ring]
        exact not_le.mp hMisses
  obtain ⟨g, hUnit, hReached, hMissed⟩ := hGuess
  rw [hUnit]
  refine ⟨le_max_left _ _, ?_, ?_⟩
  · refine hMissed.trans_le (zpow_le_zpow_right₀ one_le_two ?_)
    have hMax := le_max_right f.leastExponent g
    omega
  · rcases le_total g f.leastExponent with hSmall | hLarge
    · exact .inl (max_eq_left hSmall)
    · rw [max_eq_right hLarge]
      exact .inr hReached

/-- The nearer neighbour, told by its exponent and its significand. -/
theorem nearer_significand (hFraction : 0 < f.fractionBits) {k q : Nat} (hAbove : q < 2 ^ (f.fractionBits + 1))
    (hBelow : k = 0 ∨ 2 ^ f.fractionBits ≤ q) (y : ℚ) :
    f.nearer (y * 2 ^ k) (k * 2 ^ f.fractionBits + q) =
      k * 2 ^ f.fractionBits +
        if 2 * y < q + (q + 1 : ℕ) then q else if (q + (q + 1 : ℕ) : ℚ) < 2 * y then q + 1 else q + q % 2 := by
  have hPower : (0 : ℚ) < 2 ^ k := by positivity
  have hSum : (((q * 2 ^ k : ℕ) : ℚ) + ((q + 1) * 2 ^ k : ℕ)) = (q + (q + 1 : ℕ)) * 2 ^ k := by
    push_cast
    ring
  have hTwice : 2 * (y * 2 ^ k) = 2 * y * 2 ^ k := by ring
  have hParity : (k * 2 ^ f.fractionBits + q) % 2 = q % 2 := by
    obtain ⟨p, hP⟩ := Nat.exists_eq_succ_of_ne_zero hFraction.ne'
    rw [hP, pow_succ, ← mul_assoc, Nat.mul_add_mod_self_right]
  rw [nearer, Nat.add_assoc, f.multiple_eq hAbove.le hBelow,
    f.multiple_eq (Nat.succ_le_of_lt hAbove) (hBelow.imp_right Nat.le_succ_of_le), hSum, hTwice]
  simp only [mul_lt_mul_iff_left₀ hPower, hParity, Nat.add_assoc]
  split_ifs <;> rfl

theorem roundQuotient_zero_eq (den : Nat) :
    ∃ low, f.multiple low ≤ ((0 : ℕ) : ℚ) / den / 2 ^ f.leastExponent ∧
      ((0 : ℕ) : ℚ) / den / 2 ^ f.leastExponent < f.multiple (low + 1) ∧
      f.roundQuotient 0 den = Min.min (f.nearer ((0 : ℕ) / den / 2 ^ f.leastExponent) low) f.infinityBits := by
  have hNext : f.multiple 0 < f.multiple (0 + 1) := f.multiple_strictMono (Nat.lt_succ_self 0)
  have hNextQ : (0 : ℚ) < f.multiple (0 + 1) := by exact_mod_cast f.multiple_zero ▸ hNext
  refine ⟨0, by simp [multiple_zero], by simpa using hNextQ, ?_⟩
  rw [nearer, if_pos (by simpa [multiple_zero] using hNextQ)]
  simp [roundQuotient]

/-- Rounding a quotient gives the nearer one of the two neighbours that it lies between, or infinity. -/
theorem roundQuotient_eq (hFraction : 0 < f.fractionBits) (num : Nat) (hDen : 0 < den) :
    ∃ low, f.multiple low ≤ (num : ℚ) / den / 2 ^ f.leastExponent ∧
      (num : ℚ) / den / 2 ^ f.leastExponent < f.multiple (low + 1) ∧
      f.roundQuotient num den = Min.min (f.nearer (num / den / 2 ^ f.leastExponent) low) f.infinityBits := by
  rcases Nat.eq_zero_or_pos num with rfl | hPositive
  · exact roundQuotient_zero_eq den
  obtain ⟨hLeast, hHigh, hLow⟩ := unitExponent_spec (f := f) hPositive.ne' hDen
  obtain ⟨n, d, hD, hScaled, hQuotient⟩ := roundScaled_eq num hDen (f.unitExponent num den)
  have hRound : f.roundQuotient num den =
      Min.min ((f.unitExponent num den - f.leastExponent).toNat * 2 ^ f.fractionBits + roundDiv n d)
        f.infinityBits := by
    rw [← hScaled, roundQuotient, if_neg (by simpa using hPositive.ne')]
    rfl
  generalize f.unitExponent num den = e at *
  obtain ⟨k, rfl⟩ := Int.le.dest hLeast
  rw [add_sub_cancel_left, Int.toNat_natCast] at hRound
  have hDQ : (0 : ℚ) < d := by exact_mod_cast hD
  have hUnit : (0 : ℚ) < 2 ^ (f.leastExponent + k) := by positivity
  -- In units in the last place the number is `n / d`, of which the whole part is the significand.
  have hUnits : (num : ℚ) / den / 2 ^ f.leastExponent = n / d * 2 ^ k := by
    rw [hQuotient, zpow_add₀ two_ne_zero, zpow_natCast]
    field_simp
  have hFloor : ((n / d : ℕ) : ℚ) ≤ n / d := Nat.cast_div_le
  have hCeil : (n : ℚ) / d < (n / d + 1 : ℕ) := by
    rw [div_lt_iff₀ hDQ, mul_comm]
    exact_mod_cast Nat.lt_mul_div_succ n hD
  have hAbove : n / d < 2 ^ (f.fractionBits + 1) := by
    have hQ : (n : ℚ) / d < 2 ^ (f.fractionBits + 1) := by
      rw [hQuotient, div_lt_iff₀ hUnit, ← zpow_natCast, ← zpow_add₀ two_ne_zero]
      refine hHigh.trans_eq (congrArg _ ?_)
      push_cast
      ring
    exact_mod_cast hFloor.trans_lt hQ
  have hBelow : k = 0 ∨ 2 ^ f.fractionBits ≤ n / d := by
    refine hLow.imp (fun hSmallest => by omega) fun hReached => ?_
    have hQ : (2 : ℚ) ^ f.fractionBits ≤ n / d := by
      rw [hQuotient, le_div_iff₀ hUnit, ← zpow_natCast, ← zpow_add₀ two_ne_zero]
      refine hReached.trans_eq' (congrArg _ ?_)
      ring
    exact Nat.lt_succ_iff.mp (by exact_mod_cast hQ.trans_lt hCeil)
  refine ⟨k * 2 ^ f.fractionBits + n / d, ?_, ?_, ?_⟩
  · rw [f.multiple_eq hAbove.le hBelow, hUnits, Nat.cast_mul, Nat.cast_pow, Nat.cast_ofNat]
    gcongr
  · rw [Nat.add_assoc, f.multiple_eq (Nat.succ_le_of_lt hAbove) (hBelow.imp_right Nat.le_succ_of_le), hUnits,
      Nat.cast_mul, Nat.cast_pow, Nat.cast_ofNat]
    gcongr
  · rw [hRound, roundDiv_eq hD, hUnits, nearer_significand hFraction hAbove hBelow]

end

section

variable {f}

theorem infinityBits_eq : f.infinityBits = (2 ^ f.exponentBits - 1) * 2 ^ f.fractionBits := rfl

theorem signBit_eq : f.signBit = 2 ^ f.fractionBits * 2 ^ f.exponentBits := by
  rw [← pow_add, Nat.add_comm]
  rfl

/-- A pattern is its sign bit, its exponent and its fraction. -/
theorem magnitudeBits_eq (bits : Nat) :
    f.magnitudeBits bits =
      bits / 2 ^ f.fractionBits % 2 ^ f.exponentBits * 2 ^ f.fractionBits + bits % 2 ^ f.fractionBits := by
  rw [magnitudeBits, signBit_eq, Nat.mod_mul]
  ring

/-- Only with the last exponent a pattern is infinite or no number. -/
theorem lt_infinityBits_iff {field fraction : Nat} (hFraction : fraction < 2 ^ f.fractionBits)
    (hField : field < 2 ^ f.exponentBits) :
    field * 2 ^ f.fractionBits + fraction < f.infinityBits ↔ field ≠ 2 ^ f.exponentBits - 1 := by
  rw [infinityBits_eq]
  constructor
  · rintro hLess rfl
    omega
  · intro hLast
    calc field * 2 ^ f.fractionBits + fraction < (field + 1) * 2 ^ f.fractionBits := by rw [Nat.succ_mul]; omega
      _ ≤ (2 ^ f.exponentBits - 1) * 2 ^ f.fractionBits := Nat.mul_le_mul_right _ (by omega)

/-- A pattern stands for a multiple of the least member, with its sign, unless it is infinite or no number. -/
theorem number?_decode (bits : Nat) :
    (f.decode bits).number? =
      if f.magnitudeBits bits < f.infinityBits then
        some (negatedIf (f.isNegative bits) (f.multiple (f.magnitudeBits bits) * 2 ^ f.leastExponent))
      else none := by
  have hField := Nat.mod_lt (bits / 2 ^ f.fractionBits) (Nat.two_pow_pos f.exponentBits)
  have hFraction := Nat.mod_lt bits (Nat.two_pow_pos f.fractionBits)
  rw [magnitudeBits_eq, f.multiple_fields hFraction, if_congr (lt_infinityBits_iff hFraction hField) rfl rfl]
  unfold decode isNegative
  simp only [Nat.pow_eq, beq_iff_eq]
  generalize bits / 2 ^ f.fractionBits % 2 ^ f.exponentBits = field
  generalize bits % 2 ^ f.fractionBits = fraction
  by_cases hLast : field = 2 ^ f.exponentBits - 1
  · rw [if_pos hLast, if_neg (not_not.mpr hLast)]
    split <;> rfl
  · rw [if_neg hLast, if_pos hLast]
    cases field with
    | zero => rfl
    | succ k =>
        have hPower : (2 : ℚ) ^ (f.leastExponent + (k + 1 : ℕ) - 1) = 2 ^ k * 2 ^ f.leastExponent := by
          rw [← zpow_natCast, ← zpow_add₀ two_ne_zero]
          congr 1
          push_cast
          ring
        rw [if_neg (Nat.succ_ne_zero k), if_neg (Nat.succ_ne_zero k), BinaryValue.number?, hPower, Nat.add_sub_cancel,
          Nat.cast_mul, Nat.cast_pow, Nat.cast_ofNat, mul_assoc]

theorem eq_of_number?_decode {bits : Nat} {z : ℚ} (hNumber : (f.decode bits).number? = some z) :
    z = negatedIf (f.isNegative bits) (f.multiple (f.magnitudeBits bits) * 2 ^ f.leastExponent) := by
  rw [number?_decode] at hNumber
  split_ifs at hNumber
  exact (Option.some.inj hNumber).symm

theorem infinityBits_lt_signBit : f.infinityBits < f.signBit := by
  have hExponents : 0 < 2 ^ f.exponentBits := Nat.two_pow_pos _
  rw [infinityBits_eq, signBit_eq, Nat.mul_comm]
  exact Nat.mul_lt_mul_of_pos_left (by omega) (Nat.two_pow_pos _)

section

variable {negative : Bool} {bits : Nat}

theorem magnitudeBits_withSign (hBits : bits < f.signBit) : f.magnitudeBits (f.withSign negative bits) = bits := by
  cases negative with
  | false => exact Nat.mod_eq_of_lt hBits
  | true => exact (Nat.add_mod_left _ _).trans (Nat.mod_eq_of_lt hBits)

theorem isNegative_withSign (hBits : bits < f.signBit) : f.isNegative (f.withSign negative bits) = negative := by
  have hPositive : 0 < f.signBit := Nat.zero_lt_of_lt hBits
  cases negative with
  | false => simp [isNegative, withSign, Nat.div_eq_of_lt hBits]
  | true => simp [isNegative, withSign, Nat.add_div_left _ hPositive, Nat.div_eq_of_lt hBits]

theorem withSign_mod_two (hFraction : 0 < f.fractionBits) : f.withSign negative bits % 2 = bits % 2 := by
  obtain ⟨p, hP⟩ := Nat.exists_eq_succ_of_ne_zero hFraction.ne'
  cases negative with
  | false => rfl
  | true =>
      change (f.signBit + bits) % 2 = _
      rw [signBit_eq, hP, pow_succ, Nat.mul_right_comm, Nat.add_comm, Nat.add_mul_mod_self_right]

end

/-- A pattern stands for the number that is nearest to a given one among all that the format has; if another is as near,
the pattern is even. -/
structure Nearest (f : BinaryFormat) (x y : ℚ) (bits : Nat) : Prop where
  stands : (f.decode bits).number? = some y
  closest (other : Nat) (z : ℚ) (hOther : (f.decode other).number? = some z) : |x - y| ≤ |x - z|
  even (other : Nat) (z : ℚ) (hOther : (f.decode other).number? = some z) (hTie : |x - y| = |x - z|) :
    z = y ∨ bits % 2 = 0

theorem abs_negatedIf_sub (negative : Bool) (x y : ℚ) : |negatedIf negative x - negatedIf negative y| = |x - y| := by
  cases negative with
  | false => rfl
  | true =>
      change |-x - -y| = _
      rw [neg_sub_neg, abs_sub_comm]

/-- Numbers of different signs are further apart than their sizes. -/
theorem abs_sub_le_negatedIf {x y : ℚ} (hX : 0 ≤ x) (hY : 0 ≤ y) (a b : Bool) :
    |x - y| ≤ |negatedIf a x - negatedIf b y| := by
  have hSum : |x - y| ≤ x + y := abs_le.mpr ⟨by linarith, by linarith⟩
  cases a <;> cases b
  · exact le_rfl
  · change _ ≤ |x - -y|
    rw [sub_neg_eq_add, abs_of_nonneg (add_nonneg hX hY)]
    exact hSum
  · change _ ≤ |-x - y|
    rw [← neg_add', abs_neg, abs_of_nonneg (add_nonneg hX hY)]
    exact hSum
  · rw [abs_negatedIf_sub]

/-- And strictly so, unless one of them is zero. -/
theorem eq_zero_of_negatedIf {x y : ℚ} (hX : 0 ≤ x) (hY : 0 ≤ y) {a b : Bool} (hSigns : a ≠ b)
    (hSame : |x - y| = |negatedIf a x - negatedIf b y|) : x = 0 ∨ y = 0 := by
  have hSum : |negatedIf a x - negatedIf b y| = x + y := by
    cases a <;> cases b
    · exact absurd rfl hSigns
    · change |x - -y| = _
      rw [sub_neg_eq_add, abs_of_nonneg (add_nonneg hX hY)]
    · change |-x - y| = _
      rw [← neg_add', abs_neg, abs_of_nonneg (add_nonneg hX hY)]
    · exact absurd rfl hSigns
  rw [hSum] at hSame
  rcases abs_eq_abs.mp (hSame.trans (abs_of_nonneg (add_nonneg hX hY)).symm) with hMinus | hPlus
  · exact .inr (by linarith)
  · exact .inl (by linarith)

/-- A finite pattern that is nearest among the patterns without a sign is so with either sign among all. -/
theorem nearest_withSign (hFraction : 0 < f.fractionBits) {x : ℚ} (hX : 0 ≤ x) (negative : Bool) {bits : Nat}
    (hFinite : bits < f.infinityBits)
    (hNear : ∀ other, |x / 2 ^ f.leastExponent - f.multiple bits| ≤ |x / 2 ^ f.leastExponent - f.multiple other| ∧
      (|x / 2 ^ f.leastExponent - f.multiple bits| = |x / 2 ^ f.leastExponent - f.multiple other| →
        other = bits ∨ bits % 2 = 0)) :
    f.Nearest (negatedIf negative x) (negatedIf negative (f.multiple bits * 2 ^ f.leastExponent))
      (f.withSign negative bits) := by
  have hUnit : (0 : ℚ) < 2 ^ f.leastExponent := by positivity
  have hScale (m : Nat) : |x - f.multiple m * 2 ^ f.leastExponent| =
      |x / 2 ^ f.leastExponent - f.multiple m| * 2 ^ f.leastExponent := by
    rw [← abs_of_pos hUnit, ← abs_mul, sub_mul, abs_of_pos hUnit, div_mul_cancel₀ _ hUnit.ne']
  have hSign : bits < f.signBit := hFinite.trans infinityBits_lt_signBit
  have hClosest (other : Nat) : |x - f.multiple bits * 2 ^ f.leastExponent| ≤
      |x - f.multiple other * 2 ^ f.leastExponent| := by
    rw [hScale, hScale]
    exact mul_le_mul_of_nonneg_right (hNear other).1 hUnit.le
  have hPositive (m : Nat) : (0 : ℚ) ≤ f.multiple m * 2 ^ f.leastExponent := by positivity
  refine ⟨?stands, fun other z hOther => ?closest, fun other z hOther hTie => ?even⟩
  case stands =>
    rw [number?_decode, magnitudeBits_withSign hSign, isNegative_withSign hSign, if_pos hFinite]
  case closest =>
    rw [abs_negatedIf_sub, eq_of_number?_decode hOther]
    exact (hClosest _).trans (abs_sub_le_negatedIf hX (hPositive _) _ _)
  case even =>
    rw [eq_of_number?_decode hOther] at hTie ⊢
    generalize f.magnitudeBits other = magnitude at *
    generalize f.isNegative other = sign at *
    rw [abs_negatedIf_sub] at hTie
    have hSigned := abs_sub_le_negatedIf hX (hPositive magnitude) negative sign
    have hSame := le_antisymm (hClosest magnitude) (hSigned.trans_eq hTie.symm)
    rw [withSign_mod_two hFraction]
    rw [hScale, hScale, mul_left_inj' hUnit.ne'] at hSame
    refine ((hNear magnitude).2 hSame).imp_left ?_
    rintro rfl
    by_cases hSigns : negative = sign
    · rw [hSigns]
    · -- Only zero has two signs.
      have hZero : (f.multiple magnitude : ℚ) * 2 ^ f.leastExponent = 0 := by
        refine (eq_zero_of_negatedIf hX (hPositive magnitude) hSigns hTie).elim (fun hNothing => ?_) id
        have hLeast := hClosest 0
        rw [hNothing, multiple_zero, Nat.cast_zero, zero_mul, sub_zero, abs_zero, zero_sub, abs_neg] at hLeast
        exact abs_nonpos_iff.mp hLeast
      rw [hZero]
      cases negative <;> cases sign <;> simp [negatedIf]

/-- A quotient whose rounding is finite is rounded to the nearest number. -/
theorem nearest_roundQuotient (hFraction : 0 < f.fractionBits) {num den : Nat} (hDen : 0 < den)
    (hFinite : f.roundQuotient num den < f.infinityBits) (negative : Bool) :
    ∃ y, f.Nearest (negatedIf negative (num / den)) y (f.withSign negative (f.roundQuotient num den)) := by
  obtain ⟨low, hLow, hHigh, hRound⟩ := roundQuotient_eq hFraction num hDen
  rw [hRound] at hFinite ⊢
  rw [min_eq_left (by omega)] at hFinite ⊢
  exact ⟨_, nearest_withSign hFraction (by positivity) negative hFinite (nearer_nearest hLow hHigh)⟩

/-- A quotient is rounded to infinity exactly if it reaches the middle behind the greatest number. -/
theorem roundQuotient_infinite_iff (hFraction : 0 < f.fractionBits) (hExponent : 2 ≤ f.exponentBits)
    {num den : Nat} (hDen : 0 < den) :
    f.infinityBits ≤ f.roundQuotient num den ↔
      ((2 ^ (f.fractionBits + 2) - 1) * 2 ^ (2 ^ f.exponentBits - 3) : ℚ) ≤ 2 * (num / den / 2 ^ f.leastExponent) := by
  obtain ⟨low, hLow, hHigh, hRound⟩ := roundQuotient_eq hFraction num hDen
  have hPower : 2 ^ 2 ≤ 2 ^ f.exponentBits := Nat.pow_le_pow_right (by decide) hExponent
  obtain ⟨w, hW⟩ := Nat.exists_eq_add_of_le hPower
  have hTop : 0 < 2 ^ (f.fractionBits + 1) := Nat.two_pow_pos _
  -- The greatest finite pattern has the greatest significand, and infinity is the carry behind it.
  obtain ⟨s, hS⟩ := Nat.exists_eq_succ_of_ne_zero hTop.ne'
  have hInfinite : f.infinityBits = (w + 1) * 2 ^ f.fractionBits + s + 1 := by
    rw [infinityBits_eq, hW, Nat.add_assoc, ← Nat.succ_eq_add_one s, ← hS, show 2 ^ 2 + w - 1 = w + 3 by omega]
    ring
  have hEven : ((w + 1) * 2 ^ f.fractionBits + s + 1) % 2 = 0 := by
    obtain ⟨p, hP⟩ := Nat.exists_eq_succ_of_ne_zero hFraction.ne'
    rw [← hInfinite, infinityBits_eq, hP, pow_succ, ← mul_assoc, Nat.mul_mod_left]
  have hGreatest := f.multiple_eq (k := w + 1) (q := s) (by omega) (.inr (by rw [pow_succ] at hS; omega))
  have hNext := f.multiple_eq (k := w + 1) (q := s + 1) hS.ge (.inr (by rw [pow_succ] at hS; omega))
  have hSignificand : (2 : ℚ) ^ (f.fractionBits + 2) = 2 * (s + 1) := by
    have hCast : (2 : ℚ) ^ (f.fractionBits + 1) = s + 1 := by exact_mod_cast hS
    rw [pow_succ, hCast, mul_comm]
  rw [hRound, le_min_iff, and_iff_left le_rfl, hInfinite, le_nearer_iff hLow hHigh hEven, Nat.add_assoc, hGreatest,
    hNext, hSignificand, hW, show 2 ^ 2 + w - 3 = w + 1 by omega]
  refine iff_of_eq (congrArg (· ≤ _) ?_)
  push_cast
  ring

end

end BinaryFormat

end SnippetService
