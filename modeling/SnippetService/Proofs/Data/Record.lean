import SnippetService.Data.Json
/-!
The fields of a record. Putting a field into a record changes what is found under its name and under no other,
and it keeps the names of the record distinct; so a record that JSON text stands for has each name once.
-/
namespace SnippetService.Datum

theorem lookup_cons_ite (fields : List (Text × Datum)) (name key : Text) (d : Datum) :
    ((name, d) :: fields).lookup key = if key = name then some d else fields.lookup key := by
  by_cases hKey : key = name
  · simp [hKey]
  · have hSkip : (key == name) = false := by simpa using hKey
    simp [List.lookup_cons, hSkip, hKey]

/-- The fields with the value of one name replaced wherever it stands. -/
theorem lookup_replaced (fields : List (Text × Datum)) (name key : Text) (d : Datum) :
    (fields.map fun f => if f.1 == name then (name, d) else f).lookup key =
      if key = name then (fields.lookup name).map fun _ => d else fields.lookup key := by
  induction fields with
  | nil => simp
  | cons f rest ih =>
      rcases f with ⟨n, v⟩
      by_cases hName : n = name
      · subst hName
        by_cases hKey : key = n <;> simp_all [lookup_cons_ite]
      · have hHead : (if (n == name) = true then (name, d) else (n, v)) = (n, v) := by simp [hName]
        rw [List.map_cons, hHead, lookup_cons_ite, lookup_cons_ite, lookup_cons_ite, ih,
          if_neg (Ne.symm hName)]
        by_cases hKey : key = n
        · subst hKey
          simp [hName]
        · simp [hKey]

/-- The names of a record's fields, in the order of the fields. -/
def names (fields : List (Text × Datum)) : List Text := fields.map (·.1)

theorem mem_names_iff (fields : List (Text × Datum)) (name : Text) :
    name ∈ names fields ↔ ∃ d, fields.lookup name = some d := by
  induction fields with
  | nil => simp [names]
  | cons f rest ih =>
      rcases f with ⟨n, v⟩
      rw [names, List.map_cons, List.mem_cons, ← names, ih, lookup_cons_ite]
      by_cases hName : name = n <;> simp [hName]

theorem lookup_eq_none {fields : List (Text × Datum)} {name : Text}
    (hMem : name ∉ names fields) : fields.lookup name = none := by
  cases hLookup : fields.lookup name with
  | none => rfl
  | some d => exact absurd ((mem_names_iff fields name).mpr ⟨d, hLookup⟩) hMem

theorem any_name_iff (fields : List (Text × Datum)) (name : Text) :
    (fields.any fun f => f.1 == name) = true ↔ name ∈ names fields := by
  simp [names]

theorem lookup_setField (fields : List (Text × Datum)) (name key : Text) (d : Datum) :
    (setField fields name d).lookup key = if key = name then some d else fields.lookup key := by
  by_cases hMem : name ∈ names fields
  · obtain ⟨v, hFound⟩ := (mem_names_iff fields name).mp hMem
    rw [setField, if_pos ((any_name_iff fields name).mpr hMem), lookup_replaced, hFound]
    rfl
  · rw [setField, if_neg (mt (any_name_iff fields name).mp hMem), List.lookup_append,
      lookup_cons_ite]
    by_cases hKey : key = name
    · subst hKey
      simp [lookup_eq_none hMem]
    · simp [hKey]

theorem names_setField (fields : List (Text × Datum)) (name : Text) (d : Datum) :
    names (setField fields name d) =
      if name ∈ names fields then names fields else names fields ++ [name] := by
  have hIff := any_name_iff fields name
  by_cases hMem : name ∈ names fields
  · rw [setField, if_pos (hIff.mpr hMem), if_pos hMem, names, names, List.map_map]
    apply List.map_congr_left
    intro f _
    by_cases hName : f.1 = name <;> simp [hName]
  · rw [setField, if_neg (mt hIff.mp hMem), if_neg hMem]
    simp [names]

theorem nodup_names_setField {fields : List (Text × Datum)} (hNodup : (names fields).Nodup)
    (name : Text) (d : Datum) : (names (setField fields name d)).Nodup := by
  rw [names_setField]
  by_cases hMem : name ∈ names fields
  · rwa [if_pos hMem]
  · rw [if_neg hMem]
    grind [List.nodup_append]

/-- No record has two fields of one name. Only the outermost record is looked at. -/
def IsDistinct : Datum → Prop
  | record fields => (names fields).Nodup
  | _ => True

end SnippetService.Datum

namespace SnippetService.Json

open Datum

/-- An array is never a record. -/
theorem items_distinct {value : Text → Step Datum} {fuel : Nat} {found : List Datum}
    {s rest : Text} {d : Datum} (hItems : items value fuel found s = .ok (d, rest)) :
    d.IsDistinct := by
  induction fuel generalizing found s with
  | zero => simp [items, stop] at hItems
  | succ fuel ih =>
      unfold items at hItems
      split at hItems
      · cases hItems
      · split at hItems
        · cases hItems
          exact trivial
        · exact ih hItems
        · simp [stop] at hItems

/-- The members are put in one after another, so that a name that comes again takes the place it has. -/
theorem members_distinct {value : Text → Step Datum} {fuel : Nat}
    {found : List (Text × Datum)} {s rest : Text} {d : Datum}
    (hFound : (names found).Nodup) (hMembers : members value fuel found s = .ok (d, rest)) :
    d.IsDistinct := by
  induction fuel generalizing found s with
  | zero => simp [members, stop] at hMembers
  | succ fuel ih =>
      unfold members at hMembers
      split at hMembers
      · split at hMembers
        · cases hMembers
        · split at hMembers
          · split at hMembers
            · cases hMembers
            · have hNext := nodup_names_setField hFound
              dsimp only at hMembers
              split at hMembers
              · cases hMembers
                exact hNext _ _
              · exact ih (hNext _ _) hMembers
              · simp [stop] at hMembers
          · simp [stop] at hMembers
      · simp [stop] at hMembers

/-- The words and the numbers are no records. -/
theorem word?_distinct {s rest : Text} {d : Datum} (hWord : word? s = some (d, rest)) :
    d.IsDistinct := by
  obtain ⟨w, hFind, hPair⟩ := Option.map_eq_some_iff.mp hWord
  have hMem := List.mem_of_find?_eq_some hFind
  cases hPair
  simp only [words, List.mem_cons, List.not_mem_nil, or_false] at hMem
  rcases hMem with rfl | rfl | rfl | rfl | rfl | rfl <;> exact trivial

theorem numberValue_distinct {p : NumberParts} {d : Datum} (hNumber : numberValue p = .ok d) :
    d.IsDistinct := by
  unfold numberValue at hNumber
  split at hNumber
  · split at hNumber
    · cases hNumber
    · cases hNumber
      exact trivial
  · cases hNumber
    exact trivial

theorem value_distinct {fuel : Nat} {s rest : Text} {d : Datum}
    (hValue : value fuel s = .ok (d, rest)) : d.IsDistinct := by
  cases fuel with
  | zero => simp [value, stop] at hValue
  | succ fuel =>
      unfold value at hValue
      split at hValue
      · split at hValue
        · cases hValue
          exact trivial
        · cases hValue
      · split at hValue
        · cases hValue
          exact trivial
        · exact items_distinct hValue
      · split at hValue
        · cases hValue
          exact List.nodup_nil
        · exact members_distinct (by simp [names]) hValue
      · split at hValue
        · rename_i hWord
          cases hValue
          exact word?_distinct hWord
        · split at hValue
          · simp [stop] at hValue
          · split at hValue
            · rename_i hNumber
              cases hValue
              exact numberValue_distinct hNumber
            · simp [stop] at hValue

/-- A record that JSON text stands for has each name once: of the members of one name the last counts. -/
theorem read_distinct {s : Text} {d : Datum} (hRead : read s = .ok d) : d.IsDistinct := by
  unfold read at hRead
  split at hRead
  · cases hRead
  · simp only [readText] at hRead
    split at hRead
    · cases hRead
    · rename_i hValue
      split at hRead
      · cases hRead
        exact value_distinct hValue
      · cases hRead

end SnippetService.Json
