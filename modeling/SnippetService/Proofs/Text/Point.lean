import Mathlib.Data.List.Basic
import SnippetService.Text.Blank
/-!
Strings among the texts. The text of a string can be told from every other one, is put together as the string is, and
is what can be written as bytes.
-/
namespace SnippetService

namespace Text

variable {s t : Text} {cs : List Char} {u v : String}

theorem chars?_eq_some_iff : chars? s = some cs ↔ s = ofChars cs := by
  induction s generalizing cs with
  | nil => cases cs <;> simp [chars?, ofChars]
  | cons p rest ih =>
      cases p with
      | char c =>
          rw [chars?, Option.map_eq_some_iff]
          constructor
          · rintro ⟨ds, hRest, rfl⟩
            rw [ih.mp hRest]
            rfl
          · intro hText
            cases cs with
            | nil => cases hText
            | cons d ds =>
                obtain ⟨hFirst, hRest⟩ := List.cons.inj hText
                cases hFirst
                exact ⟨ds, ih.mpr hRest, rfl⟩
      | surrogate place => cases cs <;> simp [chars?, ofChars]

theorem plain?_eq_some_iff : plain? s = some u ↔ s = ofString u := by
  simp only [plain?, Option.map_eq_some_iff, chars?_eq_some_iff, ofString]
  constructor
  · rintro ⟨cs, rfl, rfl⟩
    rw [String.toList_ofList]
  · rintro rfl
    exact ⟨u.toList, rfl, String.ofList_toList⟩

@[simp] theorem plain?_ofString (u : String) : plain? (ofString u) = some u := plain?_eq_some_iff.mpr rfl

@[simp] theorem ofString_inj : ofString u = ofString v ↔ u = v := by
  refine ⟨fun hSame => ?_, congrArg ofString⟩
  have hPlain := congrArg plain? hSame
  simpa using hPlain

theorem ofString_append (u v : String) : ofString (u ++ v) = ofString u ++ ofString v := by
  simp [ofString, ofChars]

@[simp] theorem ofString_empty : ofString "" = [] := rfl

@[simp] theorem ofString_eq_nil_iff : ofString u = [] ↔ u = "" := by
  rw [← ofString_empty, ofString_inj]

@[simp] theorem isEmpty_ofString (u : String) : (ofString u).isEmpty = u.isEmpty := by
  rw [Bool.eq_iff_iff, List.isEmpty_iff, ofString_eq_nil_iff, String.isEmpty_iff]

@[simp] theorem length_ofString (u : String) : (ofString u).length = u.length := by
  rw [ofString, ofChars, List.length_map, String.length_toList]

@[simp] theorem isPlain_ofString (u : String) : isPlain (ofString u) = true := by
  simp [isPlain, ofString, ofChars, Point.char?]

@[simp] theorem isPlain_append (s t : Text) : isPlain (s ++ t) = (isPlain s && isPlain t) := List.all_append

/-- The texts that can be written as bytes are those of strings. -/
theorem isPlain_iff : isPlain s = true ↔ ∃ u : String, s = u := by
  refine ⟨fun hPlain => ?_, fun ⟨u, hText⟩ => hText ▸ isPlain_ofString u⟩
  induction s with
  | nil => exact ⟨"", rfl⟩
  | cons p rest ih =>
      simp only [isPlain, List.all_cons, Bool.and_eq_true] at hPlain ih
      obtain ⟨u, rfl⟩ := ih hPlain.2
      cases p with
      | char c => exact ⟨String.ofList (c :: u.toList), by simp [ofString, ofChars]⟩
      | surrogate place => simp [Point.char?] at hPlain

theorem isBlankText_ofString (u : String) : isBlankText u = u.toList.all isBlank := by
  simp [isBlankText, ofString, ofChars, Point.isBlank, Point.char?, Function.comp_def]

section

variable {separator : Text}

@[simp] theorem join_nil : join separator [] = [] := List.intercalate_nil

@[simp] theorem join_singleton : join separator [s] = s := List.intercalate_singleton

theorem join_append {first second : List Text} (hFirst : first ≠ []) (hSecond : second ≠ []) :
    join separator (first ++ second) = join separator first ++ separator ++ join separator second := by
  induction first with
  | nil => exact absurd rfl hFirst
  | cons s rest ih =>
      cases rest with
      | nil => rw [join_singleton, join, List.singleton_append, List.intercalate_cons_of_ne_nil hSecond]; rfl
      | cons u more =>
          simp only [join, List.cons_append, List.intercalate_cons_cons, List.append_assoc] at ih ⊢
          rw [ih (by simp)]

theorem isPlain_join (hSeparator : separator.isPlain = true) {parts : List Text}
    (hParts : ∀ part ∈ parts, part.isPlain = true) : (join separator parts).isPlain = true := by
  induction parts with
  | nil => rfl
  | cons s rest ih =>
      have hRest := ih fun part hPart => hParts part (List.mem_cons_of_mem s hPart)
      have hFirst := hParts s List.mem_cons_self
      cases rest with
      | nil => rwa [join_singleton]
      | cons u more =>
          have hJoin : join separator ([s] ++ u :: more) = _ :=
            join_append (List.cons_ne_nil s []) (List.cons_ne_nil u more)
          rw [List.singleton_append] at hJoin
          rw [hJoin, join_singleton, isPlain_append, isPlain_append, hFirst, hSeparator, hRest]
          rfl

theorem isPlain_flatten {parts : List Text} (hParts : ∀ part ∈ parts, part.isPlain = true) :
    isPlain parts.flatten = true := by
  simpa [isPlain, List.all_flatten] using hParts

end

end Text

end SnippetService
