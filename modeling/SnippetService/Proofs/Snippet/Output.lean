import SnippetService.Proofs.Snippet.Outcome
/-!
The output of an evaluation that went well. Every logged line stands in it, the empty ones too, and the value that the
snippet has completed with stands below them. There is one exception: a single empty line above a value is lost,
because the text of the lines is what is asked whether anything was logged.
-/
namespace SnippetService.Snippet

/-- The output that a completed evaluation should have: its logged lines, and below them its value if there is one. -/
def promisedOutput (logs : List Text) : Option Text → Text
  | some value => joinLines (logs ++ [resultPrefix ++ value])
  | none => orElseText (joinLines logs) noOutput

/-- A completion value in an outcome. Where there is none, it is null. -/
def valueDatum (value : Option Text) : Datum := (value.map Datum.text).getD .null

/-- Logged lines that look as if nothing was logged. -/
def Vanishes (logs : List Text) (value : Option Text) : Prop := logs = [[]] ∧ value.isSome = true

/-- A value shown below no lines is a text that is not empty. -/
theorem isEmpty_prefixed (value : Text) : (resultPrefix ++ value).isEmpty = false := by
  rw [← Bool.not_eq_true, List.isEmpty_iff, List.append_eq_nil_iff]
  rintro ⟨hPrefix, -⟩
  exact absurd hPrefix (by decide)

/-- The text that is made of logged lines and a value. Only a single empty line makes a difference to what is
promised. -/
theorem outputText_logged (logs : List Text) (value : Option Text) :
    ∃ text, outputText (textList logs) (valueDatum value) = .ok text ∧
      (¬Vanishes logs value → orElseText text noOutput = promisedOutput logs value) ∧
      (∀ v, value = some v → logs = [[]] → orElseText text noOutput = resultPrefix ++ v) := by
  refine ⟨_, outputText_textList logs (valueDatum value), ?_⟩
  cases value with
  | none => exact ⟨fun _ => rfl, nofun⟩
  | some v =>
      have hAlone : orElseText (resultPrefix ++ v) noOutput = resultPrefix ++ v := by
        rw [orElseText, isEmpty_prefixed, if_neg Bool.false_ne_true]
      constructor
      · intro hStays
        have hLogs : logs ≠ [[]] := fun hLogs => hStays ⟨hLogs, rfl⟩
        by_cases hNone : logs = []
        · subst hNone
          simpa [promisedOutput, valueDatum, joinLines, Datum.display] using hAlone
        · have hText : (joinLines logs).isEmpty = false := by
            rw [← Bool.not_eq_true, List.isEmpty_iff, joinLines_eq_empty_iff]
            exact not_or.mpr ⟨hNone, hLogs⟩
          have hBelow := isEmpty_joinLines_append logs (isEmpty_prefixed v)
          simp only [promisedOutput, joinLines_append_singleton hNone] at hBelow ⊢
          simp [valueDatum, hText, Datum.display, orElseText]
      · rintro w ⟨⟩ rfl
        exact hAlone

/-- A completed evaluation is answered as a success, whatever was logged. Its output is the promised one exactly if it
is not a single empty line that stands above a value; then the value forms the whole output. -/
theorem buildResult_output_iff {outcome : Datum} {value : Option Text}
    (hOk : (outcome.field "ok").truthy = true) (hValue : outcome.field "value" = valueDatum value)
    (logs errors : List Text) :
    ∃ r, buildResult outcome (textList logs) (textList errors) = .ok r ∧ r.success = true ∧
      (r.output = some (promisedOutput logs value) ↔ ¬Vanishes logs value) ∧
      (∀ v, value = some v → logs = [[]] → r.output = some (resultPrefix ++ v)) := by
  have hMessage : messageOf outcome = .text "" := if_pos hOk
  obtain ⟨text, hText, hPromised, hLost⟩ := outputText_logged logs value
  have hMade := buildResult_succeeded hOk (textList logs) (textList errors)
  rw [hValue, hText, hMessage, errorValue_textList] at hMade
  refine ⟨_, hMade, rfl, ?kept, fun v hSome hLogs => congrArg some (hLost v hSome hLogs)⟩
  case kept =>
    refine ⟨?_, fun hStays => congrArg some (hPromised hStays)⟩
    rintro hOutput ⟨rfl, hSome⟩
    obtain ⟨v, rfl⟩ := Option.isSome_iff_exists.mp hSome
    have hShorter := (Option.some.inj hOutput).symm.trans (hLost v rfl rfl)
    have hLength := congrArg List.length hShorter
    rw [promisedOutput, joinLines, Text.join_append (by simp) (by simp)] at hLength
    simp at hLength

/-- Two empty lines stand above a value. -/
theorem buildResult_output_blank :
    let outcome : Datum := .record [("ok", .boolean true), ("value", .text "1")]
    (outcome.field "ok").truthy = true ∧ outcome.field "value" = valueDatum (some ("1" : Text)) ∧
      ∃ r, buildResult outcome (textList ["", ""]) (textList []) = .ok r ∧ r.success = true ∧
        r.output = some ("\n\n→ 1" : Text) := by
  intro outcome
  have hOk : (outcome.field "ok").truthy = true := rfl
  have hValue : outcome.field "value" = valueDatum (some ("1" : Text)) := rfl
  obtain ⟨r, hResult, hSuccess, hKept, -⟩ := buildResult_output_iff hOk hValue ["", ""] []
  exact ⟨hOk, hValue, r, hResult, hSuccess, hKept.mpr (by simp [Vanishes])⟩

/-- One empty line does not: the result is the same as if nothing had been logged. -/
theorem buildResult_output_lost :
    promisedOutput [""] (some ("1" : Text)) = "\n→ 1" ∧
      (buildResult (.record [("ok", .boolean true), ("value", .text "1")]) (textList [""]) (textList [])).toOption.map
        (·.output) = some (some ("→ 1" : Text)) := by
  decide +kernel

end SnippetService.Snippet
