import SnippetService.Proofs.Snippet.Output
/-!
The error channel of a result. The outcome alone says whether an evaluation went well. One that failed is answered with
its error lines and its message below them, and without output; one that was completed with its output, and with its
error lines as they are. What belongs to the other case has no part in the answer.
-/
namespace SnippetService.Snippet

/-- The message of an evaluation that failed, which may have none of its own. -/
def failureMessage (error : Option Text) : Text := orElseText (error.getD "") unknownError

/-- The answer to an evaluation that failed. -/
def failedResult (error : Option Text) (errors : List Text) : RunResult :=
  .failure runtime (joinLines (errors ++ [failureMessage error])) none

/-- The error of an evaluation that was completed: its error lines, or nothing if they make no text. -/
def linesError (errors : List Text) : Datum := ((nonempty? (joinLines errors)).map Datum.text).getD .null

/-- The answer to an evaluation that was completed, with the text of its lines and its value. -/
def completedResult (text : Text) (errors : List Text) : RunResult :=
  ⟨true, some (orElseText text noOutput), linesError errors, runtime, none, none, none⟩

theorem isEmpty_failureMessage (error : Option Text) : (failureMessage error).isEmpty = false :=
  isEmpty_orElseText _ (by decide)

section

variable {outcome : Datum} {error value : Option Text}

theorem messageOf_text (hFailed : (outcome.field "ok").truthy = false)
    (hError : outcome.field "error" = valueDatum error) : messageOf outcome = .text (failureMessage error) := by
  rw [messageOf_failed hFailed, hError]
  cases error with
  | none => rfl
  | some s =>
      cases hText : s.isEmpty <;> simp [valueDatum, truthy_text, failureMessage, orElseText, hText]

/-- The answer to a failed outcome is made of its message and the error lines, whatever was logged. -/
theorem buildResult_message (hFailed : (outcome.field "ok").truthy = false)
    (hError : outcome.field "error" = valueDatum error) (logs : Datum) (errors : List Text) :
    buildResult outcome logs (textList errors) = .ok (failedResult error errors) := by
  have hMessage : nonempty? (failureMessage error) = some (failureMessage error) := by
    rw [nonempty?, isEmpty_failureMessage, if_neg Bool.false_ne_true]
  have hText := isEmpty_joinLines_append errors (isEmpty_failureMessage error)
  rw [buildResult_failed hFailed, messageOf_text hFailed hError, errorValue_textList, hMessage]
  simp [Except.map, truthy_text, hText, failedResult, RunResult.failure]

/-- The answer to a completed outcome is made of its output and the error lines. -/
theorem buildResult_completed (hOk : (outcome.field "ok").truthy = true) {logs : Datum} {text : Text}
    (hText : outputText logs (outcome.field "value") = .ok text) (errors : List Text) :
    buildResult outcome logs (textList errors) = .ok (completedResult text errors) := by
  have hMessage : messageOf outcome = .text "" := if_pos hOk
  rw [buildResult_succeeded hOk, hText, hMessage, errorValue_textList]
  cases hLines : (joinLines errors).isEmpty <;>
    simp [Except.bind, Except.map, nonempty?, truthy_text, hLines, completedResult, linesError]

/-- The outcome says whether the evaluation went well, and the console does not. A failed evaluation has no output, and
its error is never empty: the message stands below the error lines, whatever was logged and whatever the value is. A
completed evaluation always has an output, and its error is that of the error lines, whatever the outcome has for an
error. -/
theorem buildResult_channels (hError : outcome.field "error" = valueDatum error)
    (hValue : outcome.field "value" = valueDatum value) (logs errors : List Text) :
    ∃ r, buildResult outcome (textList logs) (textList errors) = .ok r ∧
      r.success = (outcome.field "ok").truthy ∧
      (r.success = false →
        r.output = none ∧ r.error = .text (joinLines (errors ++ [failureMessage error])) ∧
        joinLines (errors ++ [failureMessage error]) ≠ "" ∧
        ∀ other otherLogs, (other.field "ok").truthy = false → other.field "error" = outcome.field "error" →
          buildResult other otherLogs (textList errors) = .ok r) ∧
      (r.success = true →
        (∃ text, r.output = some text ∧ text ≠ "") ∧
        r.error = (if joinLines errors = "" then .null else .text (joinLines errors)) ∧
        ∀ other, (other.field "ok").truthy = true → other.field "value" = outcome.field "value" →
          buildResult other (textList logs) (textList errors) = .ok r) := by
  cases hOk : (outcome.field "ok").truthy with
  | false =>
      refine ⟨failedResult error errors, buildResult_message hOk hError _ _, rfl, fun _ => ⟨rfl, rfl, ?filled, ?same⟩,
        nofun⟩
      case filled =>
        rw [ne_eq, Text.ofString_empty, ← List.isEmpty_iff,
          isEmpty_joinLines_append errors (isEmpty_failureMessage error)]
        exact Bool.false_ne_true
      case same =>
        intro other otherLogs hFailed hSame
        exact buildResult_message hFailed (hSame.trans hError) otherLogs errors
  | true =>
      obtain ⟨text, hText, -⟩ := outputText_logged logs value
      rw [← hValue] at hText
      refine ⟨completedResult text errors, buildResult_completed hOk hText errors, rfl, nofun,
        fun _ => ⟨⟨_, rfl, ?filled⟩, ?lines, ?same⟩⟩
      case filled =>
        rw [ne_eq, Text.ofString_empty, ← List.isEmpty_iff, isEmpty_orElseText text (by decide)]
        exact Bool.false_ne_true
      case lines =>
        change linesError errors = _
        by_cases hEmpty : joinLines errors = [] <;> simp [linesError, nonempty?, hEmpty]
      case same =>
        intro other hOther hSame
        rw [← hSame] at hText
        exact buildResult_completed hOther hText errors

end

/-- A snippet that has written an empty line to the error console and then throws an empty message. -/
theorem buildResult_channels_empty :
    let outcome : Datum := .record [("ok", .boolean false), ("error", .text "")]
    outcome.field "error" = valueDatum (some "") ∧ outcome.field "value" = valueDatum none ∧
      ∃ r, buildResult outcome (textList ["seen"]) (textList ["low", ""]) = .ok r ∧ r.success = false ∧
        r.output = none ∧ r.error = .text "low\n\nUnknown error" := by
  intro outcome
  have hError : outcome.field "error" = valueDatum (some "") := rfl
  have hValue : outcome.field "value" = valueDatum none := rfl
  obtain ⟨r, hResult, hSuccess, hFailed, -⟩ := buildResult_channels hError hValue ["seen"] ["low", ""]
  obtain ⟨hOutput, hMessage, -⟩ := hFailed hSuccess
  exact ⟨hError, hValue, r, hResult, hSuccess, hOutput, hMessage.trans (congrArg Datum.text (by decide +kernel))⟩

end SnippetService.Snippet
