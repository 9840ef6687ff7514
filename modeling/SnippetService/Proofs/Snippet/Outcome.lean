import SnippetService.Proofs.Text.Point
import SnippetService.Snippet.Outcome
/-!
How the outcome of an evaluation and the console lines make a result: the lines of the error console stand above
the message, and only the outcome says whether the evaluation went well.
-/
namespace SnippetService.Snippet

theorem joinLines_append_singleton {lines : List Text} (hLines : lines ≠ []) (s : Text) :
    joinLines (lines ++ [s]) = joinLines lines ++ "\n" ++ s := by
  rw [joinLines, Text.join_append hLines (by simp), Text.join_singleton, ← joinLines]

theorem joinLines_append_singleton_inj (lines : List Text) {s t : Text} :
    joinLines (lines ++ [s]) = joinLines (lines ++ [t]) ↔ s = t := by
  by_cases hLines : lines = []
  · subst hLines
    simp [joinLines]
  · rw [joinLines_append_singleton hLines, joinLines_append_singleton hLines, List.append_right_inj]

theorem isEmpty_joinLines_append (lines : List Text) {s : Text} (hText : s.isEmpty = false) :
    (joinLines (lines ++ [s])).isEmpty = false := by
  by_cases hLines : lines = []
  · subst hLines
    simpa [joinLines] using hText
  · rw [joinLines_append_singleton hLines]
    simp_all

/-- Lines make no text only if there are none, or one that is empty. -/
theorem joinLines_eq_empty_iff {lines : List Text} :
    joinLines lines = [] ↔ lines = [] ∨ lines = [[]] := by
  constructor
  · intro hEmpty
    match lines with
    | [] => exact .inl rfl
    | [s] => exact .inr (by simpa [joinLines] using hEmpty)
    | s :: t :: others =>
        have hSplit : joinLines ([s] ++ t :: others) = joinLines [s] ++ "\n" ++ joinLines (t :: others) :=
          Text.join_append (by simp) (by simp)
        rw [List.singleton_append, hEmpty] at hSplit
        have hBreak := (List.append_eq_nil_iff.mp (List.append_eq_nil_iff.mp hSplit.symm).1).2
        exact absurd hBreak (by decide)
  · rintro (rfl | rfl) <;> rfl

/-- A list of texts as a value. -/
def textList (lines : List Text) : Datum := .list (lines.map Datum.text)

theorem textsFrom_texts (lines : List Text) (i : Nat) :
    textsFrom i (lines.map Datum.text) = .ok lines := by
  induction lines generalizing i with
  | nil => rfl
  | cons s rest ih => rw [List.map_cons, textsFrom, ih]; rfl

theorem joined_textList (lines : List Text) : joined (textList lines) = .ok (joinLines lines) := by
  rw [textList, joined, textsFrom_texts]
  rfl

theorem truthy_textList (lines : List Text) : (textList lines).truthy = !lines.isEmpty := by
  cases lines <;> rfl

theorem truthy_text (s : Text) : (Datum.text s).truthy = !s.isEmpty := rfl

/-- The output of logged lines is their text, with the value below if there is one. -/
theorem outputText_textList (logs : List Text) (value : Datum) :
    outputText (textList logs) value = .ok (match value with
      | .null => joinLines logs
      | v =>
        if (joinLines logs).isEmpty then resultPrefix ++ v.display
        else joinLines logs ++ "\n" ++ (resultPrefix ++ v.display)) := by
  cases logs with
  | nil => cases value <;> rfl
  | cons s rest =>
      have hTruthy : (textList (s :: rest)).truthy = true := by rw [truthy_textList]; rfl
      unfold outputText
      rw [if_pos hTruthy, joined_textList]
      cases value <;> rfl

/-- The error of error lines is their text, with the message as the last line if there is one. -/
theorem errorValue_textList (errors : List Text) (message : Text) :
    errorValue (textList errors) (.text message) =
      .ok (.text (joinLines (errors ++ (nonempty? message).toList))) := by
  cases errors with
  | nil =>
      cases hMessage : message.isEmpty with
      | true => simp [errorValue, textList, Datum.truthy, nonempty?, List.isEmpty_iff.mp hMessage, joinLines,
          pure, Except.pure]
      | false => simp [errorValue, textList, Datum.truthy, nonempty?, hMessage, joinLines, pure, Except.pure]
  | cons s rest =>
      generalize hErrors : s :: rest = errors
      have hLines : errors ≠ [] := by simp [← hErrors]
      have hTruthy : (textList errors).truthy = true := by rw [truthy_textList, ← hErrors]; rfl
      cases hMessage : message.isEmpty with
      | true =>
          simp [errorValue, hTruthy, joined_textList, truthy_text, hMessage, nonempty?, bind, Except.bind, pure,
            Except.pure]
      | false =>
          simp [errorValue, hTruthy, joined_textList, truthy_text, hMessage, nonempty?,
            joinLines_append_singleton hLines, bind, Except.bind, pure, Except.pure]

/-- A message that counts is the last line of the error, and no other message gives the same lines. -/
theorem errorValue_eq_iff (lines : List Text) {d : Datum} (hTruthy : d.truthy = true) (s : Text) :
    errorValue (textList lines) d = .ok (.text (joinLines (lines ++ [s]))) ↔ d = .text s := by
  by_cases hLines : lines = []
  · subst hLines
    have hSame : errorValue (textList []) d = .ok d := rfl
    simp [hSame, joinLines]
  · have hSome : lines.isEmpty = false := by simpa using hLines
    have hBelow (t : Text) (hText : d = .text t) :
        errorValue (textList lines) d = .ok (.text (joinLines (lines ++ [t]))) := by
      subst hText
      simp only [errorValue, truthy_textList, hSome, hTruthy, joined_textList,
        joinLines_append_singleton hLines]
      rfl
    constructor
    · intro hValue
      cases d with
      | text t =>
          rw [hBelow t rfl] at hValue
          injection hValue with hValue
          injection hValue with hValue
          rw [(joinLines_append_singleton_inj lines).mp hValue]
      | _ =>
          simp only [errorValue, truthy_textList, hSome, hTruthy, joined_textList] at hValue
          cases hValue
    · exact hBelow s

theorem isEmpty_orElseText (s : Text) {fallback : Text} (hFallback : fallback.isEmpty = false) :
    (orElseText s fallback).isEmpty = false := by
  unfold orElseText
  split
  · exact hFallback
  · simpa using ‹¬s.isEmpty = true›

/-- The message of an outcome; one that went well has none. -/
def messageOf (outcome : Datum) : Datum :=
  if (outcome.field "ok").truthy then .text ""
  else if (outcome.field "error").truthy then outcome.field "error" else .text unknownError

theorem messageOf_failed {outcome : Datum} (hFailed : (outcome.field "ok").truthy = false) :
    messageOf outcome =
      if (outcome.field "error").truthy then outcome.field "error" else .text unknownError := by
  rw [messageOf, hFailed, if_neg Bool.false_ne_true]

/-- The message that a failed outcome is answered with counts. -/
theorem truthy_messageOf {outcome : Datum} (hFailed : (outcome.field "ok").truthy = false) :
    (messageOf outcome).truthy = true := by
  rw [messageOf_failed hFailed]
  split
  · assumption
  · rfl

/-- What a result that is made has from its outcome: only the output comes from elsewhere. -/
theorem buildResult_ok {outcome logs errors : Datum} {r : RunResult}
    (hResult : buildResult outcome logs errors = .ok r) :
    ∃ output e, errorValue errors (messageOf outcome) = .ok e ∧
      r = ⟨(outcome.field "ok").truthy, output, if e.truthy then e else .null, runtime, none, none,
        none⟩ := by
  have hEnd (output : Except Failure Text) (error : Except Failure Datum) (shown : Text → Option Text)
      (h : (output >>= fun o => error >>= fun e =>
        pure ⟨(outcome.field "ok").truthy, shown o, if e.truthy then e else .null, runtime, none, none,
          none⟩) = Except.ok r) :
      ∃ output e, error = .ok e ∧
        r = ⟨(outcome.field "ok").truthy, output, if e.truthy then e else .null, runtime, none, none,
          none⟩ := by
    cases output with
    | error f => cases h
    | ok o =>
        cases error with
        | error f => cases h
        | ok e =>
            cases h
            exact ⟨_, e, rfl, rfl⟩
  unfold buildResult at hResult
  dsimp only at hResult
  split at hResult
  · rename_i hOk
    rw [messageOf, if_pos hOk]
    exact hEnd _ _ _ hResult
  · rename_i hFailed
    rw [messageOf, if_neg hFailed]
    exact hEnd _ _ _ hResult

/-- A result says that the evaluation went well exactly when its outcome does. -/
theorem success_of_buildResult {outcome logs errors : Datum} {r : RunResult}
    (hResult : buildResult outcome logs errors = .ok r) :
    r.success = (outcome.field "ok").truthy := by
  obtain ⟨output, e, _, rfl⟩ := buildResult_ok hResult
  rfl

/-- A failed outcome makes a failed result without output, with its message below the error lines. -/
theorem buildResult_failed {outcome : Datum} (hFailed : (outcome.field "ok").truthy = false)
    (logs errors : Datum) :
    buildResult outcome logs errors =
      (errorValue errors (messageOf outcome)).map
        fun d => ⟨false, none, if d.truthy then d else .null, runtime, none, none, none⟩ := by
  simp only [buildResult, messageOf_failed hFailed, hFailed, Bool.false_eq_true, ↓reduceIte]
  generalize errorValue errors _ = error
  cases error with
  | error e => rfl
  | ok d => rfl

/-- An outcome that went well makes a result with its output, and its error lines are all of the error. -/
theorem buildResult_succeeded {outcome : Datum} (hOk : (outcome.field "ok").truthy = true)
    (logs errors : Datum) :
    buildResult outcome logs errors =
      (outputText logs (outcome.field "value")).bind fun output =>
        (errorValue errors (messageOf outcome)).map fun d =>
          ⟨true, some (orElseText output noOutput), if d.truthy then d else .null, runtime, none, none,
            none⟩ := by
  have hMessage : messageOf outcome = .text "" := if_pos hOk
  simp only [buildResult, hMessage, hOk, ↓reduceIte]
  cases outputText logs (outcome.field "value") with
  | error f => rfl
  | ok output =>
      cases errorValue errors (.text "") with
      | error f => rfl
      | ok d =>
          cases hEmpty : output.isEmpty <;>
            simp [bind, Except.bind, pure, Except.pure, Except.map, orElseText, hEmpty]

/-- Without error lines the error is the message itself, and with error lines it is a text. -/
theorem errorValue_bare {errors : Datum} (hBare : errors.truthy = false) (message : Datum) :
    errorValue errors message = .ok message := by
  simp [errorValue, hBare, pure, Except.pure]

theorem errorValue_lines {errors message e : Datum} (hLines : errors.truthy = true)
    (hValue : errorValue errors message = .ok e) : ∃ s, e = .text s := by
  simp only [errorValue, hLines, Bool.not_true, Bool.false_eq_true, ↓reduceIte] at hValue
  cases hJoined : joined errors with
  | error f =>
      rw [hJoined] at hValue
      cases hValue
  | ok lines =>
      rw [hJoined] at hValue
      change (if (!message.truthy) = true then Except.ok (Datum.text lines) else _) = Except.ok e at hValue
      split at hValue
      · cases hValue
        exact ⟨_, rfl⟩
      · cases message with
        | text s =>
            cases hValue
            exact ⟨_, rfl⟩
        | _ => cases hValue

end SnippetService.Snippet
