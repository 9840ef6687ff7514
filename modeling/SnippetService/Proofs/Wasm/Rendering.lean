import SnippetService.Proofs.Numeric.Double
import SnippetService.Proofs.Numeric.Layout
import SnippetService.Proofs.Wasm.Arguments
import SnippetService.Wasm.Rendering
/-!
What the text of a number tells. Two numbers have the same text exactly if they are the same number, whether they are
integers or doubles: whole numbers are written with all their digits, and any other double with digits that are rounded
to it again.
-/
namespace SnippetService.Wasm

/-- What a number amounts to: an exact number, or no finite one. -/
inductive Amount where
  | finite (q : ℚ)
  | infinite (negative : Bool)

/-- The amount of a number among the data. The two zeros amount to the same. -/
def amount? : Datum → Option Amount
  | .integer n => some (.finite n)
  | .real x =>
    match BinaryValue.ofDouble x with
    | .infinity negative => some (.infinite negative)
    | v => v.number?.map .finite
  | _ => none

/-- The numbers that can be shown: integers that are not too long, and all doubles that are numbers. -/
inductive Showable : Datum → Prop where
  | integer {n : Int} (hShort : (Nat.toDigits 10 n.natAbs).length ≤ 4300) : Showable (.integer n)
  | real {x : Float} (hNumber : BinaryValue.ofDouble x ≠ .nan) : Showable (.real x)

/-- An integer as its decimal digits, with a minus sign if it is negative. -/
def exactText (n : Int) : String := (if n < 0 then "-" else "") ++ String.ofList (Nat.toDigits 10 n.natAbs)

/-- The text of an infinite number. -/
def infinityText (negative : Bool) : String := if negative then "-Infinity" else "Infinity"

/-- How the amount of a number is shown. -/
inductive Shows : Datum → Amount → String → Prop where
  | whole {d : Datum} (n : Int) : Shows d (.finite n) (exactText n)
  | infinite {d : Datum} (negative : Bool) : Shows d (.infinite negative) (infinityText negative)
  | fraction {x : Float} {q : ℚ} (hNumber : (BinaryValue.ofDouble x).number? = some q) (hFraction : ∀ n : Int, q ≠ n) :
      Shows (.real x) (.finite q) (NumberLayout.plain.writeDouble x)

section

variable {n m : Int} {q : ℚ}

theorem exactText_eq (n : Int) : exactText n = toString n := by
  rw [Int.toString_eq_repr, Int.repr_eq_if, Nat.repr_eq_ofList_toDigits, Nat.repr_eq_ofList_toDigits, exactText]
  rcases lt_or_ge n 0 with hNegative | hPositive
  · rw [if_pos hNegative, if_neg (not_le.mpr hNegative), show n.natAbs = (-n).toNat by omega]
  · rw [if_neg (not_lt.mpr hPositive), if_pos hPositive, show n.natAbs = n.toNat by omega, String.empty_append]

theorem exactText_injective (hSame : exactText n = exactText m) : n = m := by
  rw [exactText_eq, exactText_eq] at hSame
  exact Int.repr_inj.mp hSame

/-- Nothing but digits stands behind the sign. -/
theorem mem_exactText {c : Char} (hMem : c ∈ (exactText n).toList) : c = '-' ∨ c.isDigit = true := by
  rw [exactText, String.toList_append, List.mem_append, String.toList_ofList] at hMem
  rcases hMem with hSign | hDigit
  · split at hSign
    · exact .inl (List.mem_singleton.mp hSign)
    · cases hSign
  · exact .inr (Nat.isDigit_of_mem_toDigits (by decide) (by decide) hDigit)

theorem truncated_intCast (n : Int) : truncated n = n := by
  rw [truncated, Int.ceil_intCast, Int.floor_intCast, ite_self]

theorem exists_negatedIf_eq_intCast (negative : Bool) (q : ℚ) :
    (∃ n : Int, negatedIf negative q = n) ↔ ∃ n : Int, q = n := by
  cases negative with
  | false => rfl
  | true =>
      constructor <;> rintro ⟨n, hN⟩
      · exact ⟨-n, by rw [Int.cast_neg, ← hN, negatedIf, if_pos rfl, neg_neg]⟩
      · exact ⟨-n, by rw [Int.cast_neg, ← hN, negatedIf, if_pos rfl]⟩

/-- A finite value has no fraction exactly if it stands for an integer. -/
theorem isIntegral_iff {v : BinaryValue} (hNumber : v.number? = some q) : v.isIntegral = true ↔ ∃ n : Int, q = n := by
  obtain ⟨negative, magnitude, exponent, rfl, rfl⟩ := BinaryValue.exists_finite hNumber
  rw [exists_negatedIf_eq_intCast, BinaryValue.isIntegral, Bool.or_eq_true, decide_eq_true_eq, beq_iff_eq]
  rcases lt_or_ge exponent 0 with hNegative | hPositive
  · rw [or_iff_right (not_le.mpr hNegative), two_zpow_of_neg hNegative, ← div_eq_mul_inv]
    have hPower : (0 : ℚ) < (2 ^ (-exponent).toNat : ℕ) := by positivity
    change magnitude % 2 ^ (-exponent).toNat = 0 ↔ _
    constructor
    · intro hDivides
      obtain ⟨c, hC⟩ := Nat.dvd_of_mod_eq_zero hDivides
      refine ⟨c, ?_⟩
      rw [hC, Nat.cast_mul, mul_div_cancel_left₀ _ hPower.ne', Int.cast_natCast]
    · rintro ⟨n, hN⟩
      rw [div_eq_iff hPower.ne'] at hN
      have hProduct : (magnitude : Int) = n * (2 ^ (-exponent).toNat : ℕ) := by exact_mod_cast hN
      exact Nat.mod_eq_zero_of_dvd (Int.natCast_dvd_natCast.mp ⟨n, hProduct.trans (mul_comm _ _)⟩)
  · refine iff_of_true (.inl hPositive) ⟨(magnitude * 2 ^ exponent.toNat : ℕ), ?_⟩
    rw [two_zpow_of_nonneg hPositive, Int.cast_natCast, Nat.cast_mul]

/-- An integer is shown exactly if it is not too long. -/
theorem formatNumber_integer (n : Int) :
    formatNumber (.integer n) =
      if 4300 < (Nat.toDigits 10 n.natAbs).length then
        .error (.unexpected .value ("Exceeds the limit (4300 digits) for integer string conversion; " ++
          "use sys.set_int_max_str_digits() to increase the limit"))
      else .ok (exactText n : Text) := by
  have hLength : (toString n.natAbs).length = (Nat.toDigits 10 n.natAbs).length := by
    rw [Nat.toString_eq_ofList_toDigits, String.length_ofList]
  rw [exactText_eq]
  change (if Digits.limit < (toString n.natAbs).length then _ else _) = _
  rw [hLength]
  rfl

/-- A finite double is shown as an integer exactly if it is one. -/
theorem formatNumber_real {x : Float} (hNumber : (BinaryValue.ofDouble x).number? = some q) :
    formatNumber (.real x) =
      if (BinaryValue.ofDouble x).isIntegral then .ok (exactText (truncated q) : Text)
      else .ok (NumberLayout.plain.writeDouble x : Text) := by
  have hTruncated := truncate?_eq hNumber
  obtain ⟨negative, magnitude, exponent, hValue, -⟩ := BinaryValue.exists_finite hNumber
  rw [hValue] at hTruncated
  rw [exactText_eq]
  simp only [formatNumber, hValue, hTruncated, Option.getD_some]

end

/-- A point or an exponent is in a text. -/
def Marked (s : String) : Prop := '.' ∈ s.toList ∨ 'e' ∈ s.toList

theorem not_marked_exactText (n : Int) : ¬Marked (exactText n) := by
  rintro (hPoint | hExponent)
  · exact absurd (mem_exactText hPoint) (by decide)
  · exact absurd (mem_exactText hExponent) (by decide)

theorem not_marked_infinityText (negative : Bool) : ¬Marked (infinityText negative) := by
  cases negative <;> exact not_or.mpr (by decide)

theorem exactText_ne_infinityText (n : Int) (negative : Bool) : exactText n ≠ infinityText negative := by
  intro hSame
  have hLetter : 'I' ∈ (exactText n).toList := by
    rw [hSame]
    cases negative <;> decide
  exact absurd (mem_exactText hLetter) (by decide)

theorem infinityText_injective : ∀ a b : Bool, infinityText a = infinityText b → a = b := by
  decide

section

variable {x : Float} {q : ℚ}

/-- The text of a double that is no integer has a point or an exponent, gives a decimal to which this double is the
nearest, and is read as this double. -/
theorem writeDouble_fraction (hNumber : (BinaryValue.ofDouble x).number? = some q) (hFraction : ∀ n : Int, q ≠ n) :
    Marked (NumberLayout.plain.writeDouble x) ∧
      ∃ d y, Decimal.numeral? (NumberLayout.plain.writeDouble x) = some d ∧
        BinaryFormat.double.Nearest d.value q x.toBits.toNat ∧
        Decimal.readReal? (NumberLayout.plain.writeDouble x) = some y ∧ y.toBits = x.toBits := by
  obtain ⟨negative, m, e, hValue, rfl⟩ := BinaryValue.exists_finite hNumber
  have hM : 0 < m := by
    refine Nat.pos_of_ne_zero ?_
    rintro rfl
    exact hFraction 0 (by cases negative <;> simp [negatedIf])
  refine ⟨?_, NumberLayout.readReal?_writeDouble _ hValue hM⟩
  rw [NumberLayout.writeDouble_eq hValue hM, Marked, String.toList_append, List.mem_append, List.mem_append]
  exact (NumberLayout.mark_mem_unsigned rfl _).imp .inr .inr

/-- Doubles of one number other than zero are one double. -/
theorem writeDouble_congr {y : Float} (hX : (BinaryValue.ofDouble x).number? = some q)
    (hY : (BinaryValue.ofDouble y).number? = some q) (hQ : q ≠ 0) (layout : NumberLayout) :
    layout.writeDouble x = layout.writeDouble y := by
  have hBits := BinaryFormat.eq_of_number? x.toBits.toNat_lt y.toBits.toNat_lt hX hY hQ
  rw [NumberLayout.writeDouble, NumberLayout.writeDouble, BinaryValue.ofDouble, BinaryValue.ofDouble, hBits]

end

section

variable {a b : Datum} {v w : Amount} {s t : String}

/-- Each number that can be shown is. -/
theorem exists_shows (hShowable : Showable a) :
    ∃ (v : Amount) (s : String), amount? a = some v ∧ formatNumber a = .ok (s : Text) ∧ Shows a v s := by
  cases hShowable with
  | @integer n hShort =>
      exact ⟨_, _, rfl, (formatNumber_integer n).trans (if_neg (Nat.not_lt.mpr hShort)), .whole n⟩
  | @real x hNumber =>
      cases hValue : BinaryValue.ofDouble x with
      | nan => exact absurd hValue hNumber
      | infinity negative =>
          refine ⟨.infinite negative, _, ?_, ?_, .infinite negative⟩
          · simp only [amount?, hValue]
          · simp only [formatNumber, hValue]
            cases negative <;> rfl
      | finite negative magnitude exponent =>
          obtain ⟨q, hQ⟩ : ∃ q, (BinaryValue.ofDouble x).number? = some q := by
            rw [hValue]
            exact ⟨_, rfl⟩
          have hAmount : amount? (.real x) = some (.finite q) := by
            rw [hValue] at hQ
            simp only [amount?, hValue, hQ, Option.map_some]
          have hShown := formatNumber_real hQ
          by_cases hIntegral : (BinaryValue.ofDouble x).isIntegral = true
          · obtain ⟨n, rfl⟩ := (isIntegral_iff hQ).mp hIntegral
            rw [if_pos hIntegral, truncated_intCast] at hShown
            exact ⟨_, _, hAmount, hShown, .whole n⟩
          · rw [if_neg hIntegral] at hShown
            exact ⟨_, _, hAmount, hShown, .fraction hQ fun n hN => hIntegral ((isIntegral_iff hQ).mpr ⟨n, hN⟩)⟩

/-- The text tells the amount. -/
theorem Shows.amount_eq (hA : Shows a v s) (hB : Shows b w t) (hSame : s = t) : v = w := by
  cases hA with
  | whole n =>
      cases hB with
      | whole m => rw [exactText_injective hSame]
      | infinite negative => exact absurd hSame (exactText_ne_infinityText n negative)
      | fraction hNumber hFraction =>
          exact absurd (hSame ▸ (writeDouble_fraction hNumber hFraction).1) (not_marked_exactText n)
  | infinite negative =>
      cases hB with
      | whole m => exact absurd hSame.symm (exactText_ne_infinityText m negative)
      | infinite other => rw [infinityText_injective negative other hSame]
      | fraction hNumber hFraction =>
          exact absurd (hSame ▸ (writeDouble_fraction hNumber hFraction).1) (not_marked_infinityText negative)
  | @fraction x q hNumber hFraction =>
      obtain ⟨hMark, d, u, -, -, hRead, hBits⟩ := writeDouble_fraction hNumber hFraction
      cases hB with
      | whole m => exact absurd (hSame ▸ hMark) (not_marked_exactText m)
      | infinite other => exact absurd (hSame ▸ hMark) (not_marked_infinityText other)
      | @fraction y r hOther hOtherFraction =>
          obtain ⟨-, e, w, -, -, hOtherRead, hOtherBits⟩ := writeDouble_fraction hOther hOtherFraction
          -- The one text is read as one double.
          rw [hSame, hOtherRead] at hRead
          cases hRead
          rw [BinaryValue.ofDouble, ← hBits, hOtherBits] at hNumber
          exact congrArg Amount.finite (Option.some.inj (hNumber.symm.trans hOther))

/-- And the amount tells the text. -/
theorem Shows.text_eq (hA : Shows a v s) (hB : Shows b v t) : s = t := by
  cases hA with
  | whole n =>
      generalize hN : (n : ℚ) = q at hB
      cases hB with
      | whole m => rw [Int.cast_injective hN]
      | fraction hNumber hFraction => exact absurd hN.symm (hFraction n)
  | infinite negative =>
      cases hB with
      | infinite => rfl
  | @fraction x q hNumber hFraction =>
      cases hB with
      | whole m => exact absurd rfl (hFraction m)
      | fraction hOther hOtherFraction =>
          exact writeDouble_congr hNumber hOther (fun hZero => hFraction 0 (hZero.trans Int.cast_zero.symm)) _

/-- Texts of numbers are faithful: two numbers have the same text exactly if they are numerically equal, integers and
doubles alike. A whole number is shown with all its digits; the text of any other finite double gives a decimal to which
this double is the nearest, and is read as this double again. -/
theorem formatNumber_faithful :
    (∀ a b, Showable a → Showable b →
      ∃ s t : String, formatNumber a = .ok (s : Text) ∧ formatNumber b = .ok (t : Text) ∧
        (s = t ↔ amount? a = amount? b)) ∧
    (∀ a (n : Int), Showable a → amount? a = some (.finite n) → formatNumber a = .ok (exactText n : Text)) ∧
    ∀ x q, (BinaryValue.ofDouble x).number? = some q → (∀ n : Int, q ≠ n) →
      ∃ (s : String) (d : Decimal.Numeral) (y : Float), formatNumber (.real x) = .ok (s : Text) ∧
        Decimal.numeral? s = some d ∧
        BinaryFormat.double.Nearest d.value q x.toBits.toNat ∧
        Decimal.readReal? s = some y ∧ y.toBits = x.toBits := by
  refine ⟨fun a b hA hB => ?_, fun a n hA hAmount => ?_, fun x q hNumber hFraction => ?_⟩
  · obtain ⟨v, s, hV, hS, hFirst⟩ := exists_shows hA
    obtain ⟨w, t, hW, hT, hSecond⟩ := exists_shows hB
    refine ⟨s, t, hS, hT, ?_⟩
    rw [hV, hW, Option.some_inj]
    refine ⟨hFirst.amount_eq hSecond, ?_⟩
    rintro rfl
    exact hFirst.text_eq hSecond
  · obtain ⟨v, s, hV, hS, hShows⟩ := exists_shows hA
    rw [hAmount] at hV
    cases hV
    rw [hS, hShows.text_eq (.whole (d := a) n)]
  · obtain ⟨-, d, y, hNumeral, hNearest, hRead, hBits⟩ := writeDouble_fraction hNumber hFraction
    have hOther : ¬(BinaryValue.ofDouble x).isIntegral = true := fun hIntegral => by
      obtain ⟨n, hN⟩ := (isIntegral_iff hNumber).mp hIntegral
      exact hFraction n hN
    exact ⟨_, d, y, (formatNumber_real hNumber).trans (if_neg hOther), hNumeral, hNearest, hRead, hBits⟩

theorem formatNumber_faithful_two :
    let two := doubleOfBits 0x4000000000000000
    let half := doubleOfBits 0x3FE0000000000000
    formatNumber (.integer 2) = formatNumber (.real two) ∧ formatNumber (.real two) = .ok ("2" : Text) ∧
      ∃ (s : String) (d : Decimal.Numeral) (y : Float), formatNumber (.real half) = .ok (s : Text) ∧
        Decimal.numeral? s = some d ∧
        BinaryFormat.double.Nearest d.value (1 / 2) half.toBits.toNat ∧
        Decimal.readReal? s = some y ∧ y.toBits = half.toBits := by
  have hTwo : BinaryValue.ofDouble (doubleOfBits 0x4000000000000000) = .finite false (2 ^ 52) (-51) := by
    rw [BinaryValue.ofDouble, toBits_doubleOfBits (by decide) (by decide)]
    rfl
  have hHalf : BinaryValue.ofDouble (doubleOfBits 0x3FE0000000000000) = .finite false (2 ^ 52) (-53) := by
    rw [BinaryValue.ofDouble, toBits_doubleOfBits (by decide) (by decide)]
    rfl
  have hInteger : Showable (.integer 2) := .integer (by decide)
  have hReal : Showable (.real (doubleOfBits 0x4000000000000000)) := .real (by rw [hTwo]; nofun)
  have hAmount : amount? (.real (doubleOfBits 0x4000000000000000)) = some (.finite (2 : Int)) := by
    simp only [amount?, hTwo, BinaryValue.number?, Option.map_some]
    norm_num [negatedIf]
  refine ⟨?_, ?_, ?_⟩
  · obtain ⟨s, t, hS, hT, hSame⟩ := formatNumber_faithful.1 _ _ hInteger hReal
    rw [hS, hT, hSame.mpr hAmount.symm]
  · exact formatNumber_faithful.2.1 _ 2 hReal hAmount
  · refine formatNumber_faithful.2.2 _ _ ?_ fun n hN => ?_
    · rw [hHalf, BinaryValue.number?]
      norm_num [negatedIf]
    · have hDouble : (1 : Int) = 2 * n := by exact_mod_cast (by linarith : (1 : ℚ) = 2 * n)
      omega

end

end SnippetService.Wasm
