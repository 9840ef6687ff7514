import Mathlib.Data.List.DropRight
import SnippetService.Text.Blank
/-!
Trimming and splitting. What is trimmed off a list makes no difference to what is left, and what is split at a
separator is the one list of parts that gives the whole when it is put together again.
-/
namespace SnippetService

section

variable {α : Type} {p : α → Bool}

/-- A list without what can be dropped at its ends. -/
def trimmed (p : α → Bool) (l : List α) : List α := (l.dropWhile p).rdropWhile p

theorem trimChars_eq (cs : List Char) : trimChars cs = trimmed isPadding cs := rfl

theorem dropWhile_append_padded {before : List α} (hBefore : ∀ c ∈ before, p c = true) (l : List α) :
    (before ++ l).dropWhile p = l.dropWhile p := by
  rw [List.dropWhile_append_of_pos hBefore]

theorem trimmed_padded {before after : List α} (hBefore : ∀ c ∈ before, p c = true) (hAfter : ∀ c ∈ after, p c = true)
    (l : List α) : trimmed p (before ++ l ++ after) = trimmed p l := by
  rw [trimmed, trimmed, List.append_assoc, dropWhile_append_padded hBefore, List.dropWhile_append]
  cases hRest : (l.dropWhile p).isEmpty with
  | true =>
      have hNone := List.isEmpty_iff.mp hRest
      rw [if_pos rfl, hNone, List.dropWhile_eq_nil_iff.mpr hAfter]
  | false =>
      rw [if_neg Bool.false_ne_true, List.rdropWhile, List.reverse_append,
        dropWhile_append_padded fun c hMem => hAfter c (List.mem_reverse.mp hMem)]
      rfl

/-- A list with nothing to drop at its ends is left as it is. -/
theorem trimmed_eq_self {l : List α} (hHead : ∀ c ∈ l.head?, p c = false) (hLast : ∀ c ∈ l.getLast?, p c = false) :
    trimmed p l = l := by
  have hFront : l.dropWhile p = l := by
    cases l with
    | nil => rfl
    | cons c rest => simp [hHead c rfl]
  rw [trimmed, hFront, List.rdropWhile_eq_self_iff]
  intro hNonempty
  rw [hLast _ (List.getLast?_eq_some_getLast hNonempty)]
  exact Bool.false_ne_true

theorem exists_trimmed (p : α → Bool) (l : List α) :
    ∃ before after, l = before ++ trimmed p l ++ after ∧
      (∀ c ∈ before, p c = true) ∧ ∀ c ∈ after, p c = true := by
  refine ⟨l.takeWhile p, (l.dropWhile p).rtakeWhile p, ?_, fun c hMem => List.mem_takeWhile_imp hMem,
    fun c hMem => List.mem_rtakeWhile_imp hMem⟩
  rw [List.append_assoc, trimmed, List.rdropWhile_append_rtakeWhile, List.takeWhile_append_dropWhile]

end

theorem splitAt_eq_splitOn (separator : Char) (cs : List Char) : splitAt separator cs = cs.splitOn separator := by
  induction cs with
  | nil => rfl
  | cons c rest ih =>
      rw [splitAt, List.splitOn_cons_eq_if_modifyHead, ih]
      cases c == separator with
      | true => rfl
      | false =>
          cases hParts : rest.splitOn separator with
          | nil => exact absurd hParts (List.splitOn_ne_nil _ _)
          | cons part parts => rfl

/-- No part has the separator in it. -/
theorem not_mem_of_mem_splitAt {separator : Char} {cs part : List Char} (hPart : part ∈ splitAt separator cs) :
    separator ∉ part := by
  induction cs generalizing part with
  | nil =>
      obtain rfl := List.mem_singleton.mp hPart
      exact List.not_mem_nil
  | cons c rest ih =>
      rw [splitAt] at hPart
      split at hPart
      · rcases List.mem_cons.mp hPart with rfl | hLater
        · exact List.not_mem_nil
        · exact ih hLater
      · next hOther =>
        have hApart : separator ≠ c := by
          rintro rfl
          simp at hOther
        split at hPart
        · obtain rfl := List.mem_singleton.mp hPart
          simpa using hApart
        · next first parts hParts =>
          rcases List.mem_cons.mp hPart with rfl | hLater
          · have hFirst := ih (hParts ▸ List.mem_cons_self)
            simp [hApart, hFirst]
          · exact ih (hParts ▸ List.mem_cons_of_mem first hLater)

end SnippetService
