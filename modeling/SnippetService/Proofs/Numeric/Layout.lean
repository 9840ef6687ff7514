import SnippetService.Numeric.Layout
import SnippetService.Proofs.Numeric.RoundTrip
import SnippetService.Proofs.Text.Decimal
/-!
Digits as they are laid out. Wherever a layout puts the point and the exponent, its text is read as the number that the
digits stand for.
-/
namespace SnippetService

open Digits Decimal

namespace NumberLayout

variable {layout : NumberLayout} {d : DecimalDigits} {ds : List Nat}

theorem toList_text (ds : List Nat) : (text ds).toList = ds.map fun d => Char.ofNat (48 + d) := String.toList_ofList

theorem isDigit_ofNat {n : Nat} (hSmall : n < 10) : IsDigit (Char.ofNat (48 + n)) n := by
  have hCode : ∀ d < 10, (Char.ofNat (48 + d)).toNat = 48 + d := by decide
  exact ⟨hSmall, 48, by decide, hCode n hSmall⟩

theorem spells_text (hSome : ds ≠ []) (hSmall : ∀ d ∈ ds, d < 10) : Spells (text ds).toList ds := by
  rw [toList_text]
  induction ds with
  | nil => exact absurd rfl hSome
  | cons d rest ih =>
      rw [List.forall_mem_cons] at hSmall
      cases rest with
      | nil => exact .last (isDigit_ofNat hSmall.1)
      | cons e later => exact .next (isDigit_ofNat hSmall.1) (ih (List.cons_ne_nil _ _) hSmall.2)

theorem small_zeros (count : Nat) : ∀ n ∈ List.replicate count 0, n < 10 := by
  intro n hMem
  rw [List.eq_of_mem_replicate hMem]
  decide

/-- Digits of an exponent, zero among them. -/
theorem digitsOf_spec (n : Nat) :
    Shortest.digitsOf n ≠ [] ∧ (∀ d ∈ Shortest.digitsOf n, d < 10) ∧ Digits.toNat (Shortest.digitsOf n) = n := by
  by_cases hN : n = 0
  · subst hN
    decide
  · refine ⟨?_, fun d hMem => Shortest.lt_ten_of_mem_digitsOf hN hMem, Shortest.toNat_digitsOf hN⟩
    intro hNone
    have hValue := Shortest.toNat_digitsOf hN
    rw [hNone] at hValue
    exact hN hValue.symm

theorem isExponent_exponentText (layout : NumberLayout) (e : Int) : IsExponent (layout.exponentText e).toList e := by
  obtain ⟨hSome, hSmall, hValue⟩ := digitsOf_spec e.natAbs
  set pad := List.replicate (layout.exponentWidth - (Shortest.digitsOf e.natAbs).length) 0 with hPad
  have hSpells : Spells (text (pad ++ Shortest.digitsOf e.natAbs)).toList (pad ++ Shortest.digitsOf e.natAbs) :=
    spells_text (by simp [hSome]) (List.forall_mem_append.mpr ⟨small_zeros _, hSmall⟩)
  have hNat : Digits.toNat (pad ++ Shortest.digitsOf e.natAbs) = e.natAbs := by rw [hPad, toNat_padded, hValue]
  rcases lt_or_ge e 0 with hNegative | hPositive
  · have hPower := IsExponent.power .minus hSpells
    rw [hNat, show (-1 : Int) * e.natAbs = e by omega] at hPower
    rw [exponentText, if_pos hNegative, String.toList_append]
    exact hPower
  · have hPower := IsExponent.power .plus hSpells
    rw [hNat, show (1 : Int) * e.natAbs = e by omega] at hPower
    rw [exponentText, if_neg (not_lt.mpr hPositive), String.toList_append]
    exact hPower

/-- A text with a point gives all the digits. -/
theorem isDecimal_point {whole fraction : List Nat} {tail : List Char} {e : Int} (hWhole : whole ≠ [])
    (hFraction : fraction ≠ []) (hSmall : ∀ d ∈ whole ++ fraction, d < 10) (hPower : IsExponent tail e) :
    IsDecimal ((text whole ++ ("." ++ text fraction)).toList ++ tail) (Digits.toNat (whole ++ fraction))
      (e - fraction.length) := by
  rw [List.forall_mem_append] at hSmall
  have hDecimal := IsDecimal.point (spells_text hWhole hSmall.1) (spells_text hFraction hSmall.2) hPower
  have hPoint : ".".toList = ['.'] := rfl
  simpa only [String.toList_append, List.append_assoc, hPoint, List.cons_append, List.nil_append] using hDecimal

/-- Without an exponent, the places behind the point are those of its last digits. -/
theorem isDecimal_places {whole fraction : List Nat} (hWhole : whole ≠ []) (hFraction : fraction ≠ [])
    (hSmall : ∀ d ∈ whole ++ fraction, d < 10) :
    IsDecimal (text whole ++ "." ++ text fraction).toList (Digits.toNat (whole ++ fraction)) (-fraction.length) := by
  have hDecimal := isDecimal_point hWhole hFraction hSmall .none
  rwa [List.append_nil, ← String.append_assoc, zero_sub] at hDecimal

/-- Zeros up to the point shift the digits to their places. -/
theorem toNat_shifted {ds : List Nat} {point : Int} (hWhole : ds.length ≤ point) :
    (Digits.toNat (ds ++ List.replicate (point - ds.length).toNat 0) : ℚ) =
      Digits.toNat ds * 10 ^ (point - ds.length) := by
  rw [toNat_append, toNat_replicate, List.length_replicate, Nat.add_zero, Nat.cast_mul,
    Shortest.ten_zpow_of_nonneg (by omega)]

section

variable {point : Int}

/-- Digits behind the point. -/
theorem isDecimal_behind (hSome : ds ≠ []) (hSmall : ∀ n ∈ ds, n < 10) (hBehind : point ≤ 0) :
    IsDecimal ("0." ++ text (List.replicate (-point).toNat 0 ++ ds)).toList (Digits.toNat ds) (point - ds.length) := by
  have hDigits : ∀ d ∈ [0] ++ (List.replicate (-point).toNat 0 ++ ds), d < 10 :=
    List.forall_mem_append.mpr ⟨small_zeros 1, List.forall_mem_append.mpr ⟨small_zeros _, hSmall⟩⟩
  have hDecimal := isDecimal_places (List.cons_ne_nil 0 []) (by simp [hSome]) hDigits
  have hValue : Digits.toNat ([0] ++ (List.replicate (-point).toNat 0 ++ ds)) = Digits.toNat ds :=
    (toNat_padded 1 _).trans (toNat_padded _ ds)
  have hPlaces : -((List.replicate (-point).toNat 0 ++ ds).length : Int) = point - ds.length := by
    rw [List.length_append, List.length_replicate]
    omega
  rw [hValue, hPlaces] at hDecimal
  exact hDecimal

/-- Digits on both sides of the point. -/
theorem isDecimal_across (hSmall : ∀ n ∈ ds, n < 10) (hFirst : 0 < point) (hLast : point < ds.length) :
    IsDecimal (text (ds.take point.toNat) ++ "." ++ text (ds.drop point.toNat)).toList (Digits.toNat ds)
      (point - ds.length) := by
  have hFront : ds.take point.toNat ≠ [] := List.ne_nil_of_length_pos (by rw [List.length_take]; omega)
  have hBack : ds.drop point.toNat ≠ [] := List.ne_nil_of_length_pos (by rw [List.length_drop]; omega)
  have hDecimal := isDecimal_places hFront hBack (by rwa [List.take_append_drop])
  have hPlaces : -((ds.drop point.toNat).length : Int) = point - ds.length := by
    rw [List.length_drop]
    omega
  rwa [List.take_append_drop, hPlaces] at hDecimal

/-- Digits in front of the point. -/
theorem isDecimal_before (hSome : ds ≠ []) (hSmall : ∀ n ∈ ds, n < 10) (hWhole : ds.length ≤ point) (marks : Bool) :
    ∃ n e, IsDecimal (text (ds ++ List.replicate (point - ds.length).toNat 0) ++
        if marks then ".0" else "").toList n e ∧
      (n * 10 ^ e : ℚ) = Digits.toNat ds * 10 ^ (point - ds.length) ∧ -1 ≤ e := by
  have hDigits : ∀ d ∈ ds ++ List.replicate (point - ds.length).toNat 0, d < 10 :=
    List.forall_mem_append.mpr ⟨hSmall, small_zeros _⟩
  cases marks with
  | true =>
      have hDecimal := isDecimal_places (by simp [hSome]) (List.cons_ne_nil 0 [])
        (List.forall_mem_append.mpr ⟨hDigits, small_zeros 1⟩)
      rw [String.append_assoc] at hDecimal
      refine ⟨_, _, hDecimal, ?_, le_rfl⟩
      rw [toNat_append, Nat.cast_add, Nat.cast_mul, toNat_shifted hWhole]
      simp [Digits.toNat]
  | false =>
      have hDecimal := IsDecimal.whole (spells_text (by simp [hSome]) hDigits) .none
      rw [List.append_nil] at hDecimal
      rw [if_neg Bool.false_ne_true, String.append_empty]
      refine ⟨_, 0, hDecimal, ?_, by decide⟩
      rw [toNat_shifted hWhole, zpow_zero, mul_one]

end

/-- A text of a layout is a decimal of the number for which the digits stand. It has other digits only in front of the
point or right behind it. -/
theorem unsigned_isDecimal (layout : NumberLayout) (hProper : d.Proper) :
    ∃ n e, IsDecimal (layout.unsigned d).toList n e ∧ (n * 10 ^ e : ℚ) = d.value ∧
      (n = Digits.toNat d.digits ∨ -1 ≤ e) := by
  obtain ⟨ds, point⟩ := d
  obtain ⟨hSome, hSmall, -⟩ := hProper
  dsimp only at hSome hSmall
  unfold unsigned
  dsimp only
  split
  case isTrue hScientific =>
    obtain ⟨first, rest, rfl⟩ := List.exists_cons_of_ne_nil hSome
    refine ⟨Digits.toNat (first :: rest), point - (first :: rest).length, ?_, rfl, .inl rfl⟩
    have hPower := layout.isExponent_exponentText (point - 1)
    simp only [List.take_succ_cons, List.take_zero, List.drop_succ_cons, List.drop_zero]
    cases rest with
    | nil =>
        rw [String.append_empty, String.toList_append]
        exact .whole (spells_text hSome hSmall) hPower
    | cons second later =>
        have hDecimal := isDecimal_point (List.cons_ne_nil first []) (List.cons_ne_nil second later) hSmall hPower
        have hPlaces : point - (first :: second :: later).length = point - 1 - (second :: later).length := by
          push_cast [List.length_cons]
          ring
        rw [String.toList_append, hPlaces]
        exact hDecimal
  case isFalse =>
    split
    case isTrue hBehind => exact ⟨_, _, isDecimal_behind hSome hSmall hBehind, rfl, .inl rfl⟩
    case isFalse hBehind =>
      split
      case isTrue hWhole =>
        obtain ⟨n, e, hDecimal, hValue, hPlaces⟩ := isDecimal_before hSome hSmall hWhole layout.marksWhole
        exact ⟨n, e, hDecimal, hValue, .inr hPlaces⟩
      case isFalse hWhole =>
        exact ⟨_, _, isDecimal_across hSmall (not_le.mp hBehind) (not_le.mp hWhole), rfl, .inl rfl⟩

/-- Where whole numbers are marked, every text has a point or an exponent. -/
theorem mark_mem_unsigned (hMarks : layout.marksWhole = true) (d : DecimalDigits) :
    '.' ∈ (layout.unsigned d).toList ∨ 'e' ∈ (layout.unsigned d).toList := by
  unfold unsigned exponentText
  dsimp only
  split_ifs <;> simp [String.toList_append]

section

variable {x : Float} {negative : Bool} {m : Nat} {e : Int}

theorem writeDouble_eq (hValue : BinaryValue.ofDouble x = .finite negative m e) (hM : 0 < m) :
    layout.writeDouble x =
      (if negative then "-" else "") ++ layout.unsigned (Shortest.ofDyadic .double layout.nearestOnly m e) := by
  obtain ⟨q, rfl⟩ := Nat.exists_eq_succ_of_ne_zero hM.ne'
  rw [writeDouble, hValue]
  rfl

/-- A decimal without places behind the first has no more digits than its size needs. -/
theorem log2_lt_of_places {n : Nat} {exponent k : Int} (hN : n ≠ 0) (hHigh : (n * 10 ^ exponent : ℚ) ≤ 2 ^ k)
    (hPlaces : -1 ≤ exponent) : (n.log2 : Int) < k + 4 := by
  have hPower : (2 : ℚ) ^ (n.log2 : Int) < 2 ^ (k + 4) :=
    calc (2 : ℚ) ^ (n.log2 : Int) ≤ n := by exact_mod_cast Nat.log2_self_le hN
      _ = n * 10 ^ (-1 : Int) * 10 := by rw [zpow_neg_one]; ring
      _ ≤ n * 10 ^ exponent * 10 := by gcongr; norm_num
      _ ≤ 2 ^ k * 10 := by gcongr
      _ < 2 ^ k * 2 ^ (4 : Int) := by gcongr; norm_num
      _ = 2 ^ (k + 4) := (zpow_add₀ two_ne_zero _ _).symm
  exact (zpow_lt_zpow_iff_right₀ one_lt_two).mp hPower

/-- The text of a double gives a decimal to which this double is the nearest, and it is read as this double again. -/
theorem readReal?_writeDouble (layout : NumberLayout) (hValue : BinaryValue.ofDouble x = .finite negative m e)
    (hM : 0 < m) :
    ∃ d y, numeral? (layout.writeDouble x) = some d ∧
      BinaryFormat.double.Nearest d.value (negatedIf negative (m * 2 ^ e)) x.toBits.toNat ∧
      readReal? (layout.writeDouble x) = some y ∧ y.toBits = x.toBits := by
  obtain ⟨hSmall, hRange⟩ := ofDouble_range hValue
  obtain ⟨hProper, hRounds⟩ := Shortest.ofDyadic_spec layout.nearestOnly hM hSmall hRange
  obtain ⟨n, exponent, hDecimal, hDigits, hPlaces⟩ := layout.unsigned_isDecimal hProper
  have hNumeral : numeral? (layout.writeDouble x) = some ⟨negative, n, exponent⟩ := by
    refine hDecimal.numeral?_eq ?_
    rw [writeDouble_eq hValue hM, String.toList_append]
    cases negative <;> rfl
  obtain ⟨hBits, hNearest⟩ := ofDecimal_shortest hValue hM hDigits
  obtain ⟨hLow, hHigh⟩ := hRounds.range hM hSmall hRange
  rw [← hDigits] at hLow hHigh
  have hN : n ≠ 0 := by
    rintro rfl
    refine absurd hLow (not_le.mpr ?_)
    rw [Nat.cast_zero, zero_mul]
    positivity
  have hLog : n.log2 < 1200 := by
    rcases hPlaces with hSame | hFew
    · exact (Nat.log2_lt hN).mpr ((hSame.trans_le hProper.short).trans_lt (by decide +kernel))
    · have hSize := log2_lt_of_places hN hHigh hFew
      omega
  refine ⟨_, _, hNumeral, hNearest, readReal?_eq hNumeral, ?_⟩
  rw [doubleOfDecimal_eq negative hN hLog hLow hHigh, hBits]
  obtain ⟨-, -, -, -, -, -, hFinite⟩ := BinaryFormat.decode_finite hValue
  exact UInt64.toNat_inj.mp (toBits_doubleOfBits x.toBits.toNat_lt hFinite.le)

end

end NumberLayout

end SnippetService
