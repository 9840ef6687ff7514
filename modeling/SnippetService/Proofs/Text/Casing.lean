import SnippetService.Proofs.Text.Blank
import SnippetService.Proofs.Text.Point
import SnippetService.Text.Casing
/-!
What text in lower case and text without blanks depend on. The mapping to lower case looks at the neighbours of a
letter, but no neighbour counts differently for being an ASCII letter of the other case. So two texts that differ in
the case of ASCII letters at most are the same in lower case, and they are blank at the same places.
-/
namespace SnippetService

/-- A code point with an ASCII capital made small. -/
def Point.toLower : Point → Point
  | char c => char c.toLower
  | p => p

/-- Texts that differ in the case of ASCII letters at most. -/
def SameLetters (s t : Text) : Prop := s.map Point.toLower = t.map Point.toLower

theorem sameLetters_ofString_iff {u v : String} :
    SameLetters u v ↔ u.toList.map Char.toLower = v.toList.map Char.toLower := by
  have hMap (w : String) : (Text.ofString w).map Point.toLower = (w.toList.map Char.toLower).map Point.char := by
    simp [Text.ofString, Text.ofChars, Point.toLower, Function.comp_def]
  rw [SameLetters, hMap, hMap]
  exact ⟨fun hSame => List.map_injective_iff.mpr (fun _ _ => Point.char.inj) hSame, congrArg _⟩

/-- Of texts with the same letters both are strings, or none. -/
theorem SameLetters.isPlain {s t : Text} (hSame : SameLetters s t) : s.isPlain = t.isPlain := by
  have hFold (u : Text) : u.isPlain = (u.map Point.toLower).all fun p => p.char?.isSome := by
    rw [List.all_map, Text.isPlain]
    refine congrArg (List.all u) (funext fun p => ?_)
    cases p <;> rfl
  rw [hFold, hFold, hSame]

namespace Casing

/-- The code of a character, with an ASCII capital made small. -/
def small (c : Nat) : Nat := if 65 ≤ c ∧ c ≤ 90 then c + 32 else c

theorem small_capital {c : Nat} (hCapital : 65 ≤ c ∧ c ≤ 90) : small c = c + 32 := if_pos hCapital

theorem small_other {c : Nat} (hOther : ¬(65 ≤ c ∧ c ≤ 90)) : small c = c := if_neg hOther

theorem toNat_toLower (c : Char) : c.toLower.toNat = small c.toNat := by
  by_cases hCapital : 65 ≤ c.toNat ∧ c.toNat ≤ 90
  · have hBounds : c.val ≥ 'A'.val ∧ c.val ≤ 'Z'.val := hCapital
    have hSum : (c.val + ('a'.val - 'A'.val)).toNat = c.toNat + 32 := by
      have hSmall : c.val.toNat ≤ 90 := hCapital.2
      rw [UInt32.toNat_add, show ('a'.val - 'A'.val).toNat = 32 from rfl, Nat.mod_eq_of_lt (by omega)]
      rfl
    have hLower : c.toLower.val = c.val + ('a'.val - 'A'.val) := congrArg Char.val (dif_pos hBounds)
    rw [small_capital hCapital, ← hSum, ← hLower]
    rfl
  · have hBounds : ¬(c.val ≥ 'A'.val ∧ c.val ≤ 'Z'.val) := hCapital
    have hLower : c.toLower = c := dif_neg hBounds
    rw [small_other hCapital, hLower]

end Casing

theorem isBlank_toLower (c : Char) : isBlank c.toLower = isBlank c := by
  by_cases hCapital : 65 ≤ c.toNat ∧ c.toNat ≤ 90
  · rw [Bool.eq_iff_iff]
    simp only [isBlank, Casing.toNat_toLower, Casing.small_capital hCapital, Bool.or_eq_true, Bool.and_eq_true,
      beq_iff_eq, decide_eq_true_eq]
    omega
  · simp only [isBlank, Casing.toNat_toLower, Casing.small_other hCapital]

theorem isBlank_comp_toLower : isBlank ∘ Char.toLower = isBlank := funext isBlank_toLower

theorem stripChars_map_toLower (cs : List Char) :
    stripChars (cs.map Char.toLower) = (stripChars cs).map Char.toLower := by
  simp only [stripChars, List.dropWhile_map, isBlank_comp_toLower, ← List.map_reverse]

theorem SameLetters.strip {s t : String} (hSame : SameLetters s t) :
    SameLetters (SnippetService.strip s) (SnippetService.strip t) := by
  rw [sameLetters_ofString_iff] at hSame ⊢
  simp only [SnippetService.strip, String.toList_ofList, ← stripChars_map_toLower, hSame]

theorem SameLetters.isBlankText {s t : Text} (hSame : SameLetters s t) :
    SnippetService.isBlankText s = SnippetService.isBlankText t := by
  have hFold (u : Text) : SnippetService.isBlankText u = (u.map Point.toLower).all Point.isBlank := by
    rw [List.all_map, SnippetService.isBlankText]
    refine congrArg (List.all u) (funext fun p => ?_)
    cases p with
    | char c => exact (isBlank_toLower c).symm
    | surrogate place => rfl
  rw [hFold, hFold, hSame]

/-- Blanks are characters. -/
theorem isPlain_of_isBlankText {s : Text} (hBlank : isBlankText s = true) : s.isPlain = true := by
  rw [isBlankText, List.all_eq_true] at hBlank
  refine List.all_eq_true.mpr fun p hMem => ?_
  have hPoint := hBlank p hMem
  cases p with
  | char c => rfl
  | surrogate place => cases hPoint

end SnippetService
