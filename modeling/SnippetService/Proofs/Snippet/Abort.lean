import SnippetService.Proofs.Data.Record
import SnippetService.Proofs.Snippet.Evaluation
import SnippetService.Snippet.Context
/-!
What an aborted snippet is answered with. The outcome of an abort is a failure with the text of what was raised,
but the console is read in the context that the snippet has run in, and every member of what is read is put over
the outcome. So the abort is reported as a failure exactly as long as none of the members gets in its way.
-/
namespace SnippetService.Snippet

open Job

variable {κ : Type}

/-- The last field of a name counts, and names that are not put over keep what they had. -/
theorem lookup_overlay {new : List (Text × Datum)} (hNew : (Datum.names new).Nodup)
    (fields : List (Text × Datum)) (key : Text) :
    (overlay fields new).lookup key = (new.lookup key).or (fields.lookup key) := by
  induction new generalizing fields with
  | nil => rfl
  | cons f rest ih =>
      rcases f with ⟨name, d⟩
      obtain ⟨hFresh, hRest⟩ := List.nodup_cons.mp hNew
      rw [overlay, List.foldl_cons, ← overlay, ih hRest, Datum.lookup_setField, Datum.lookup_cons_ite]
      by_cases hKey : key = name
      · subst hKey
        rw [if_pos rfl, if_pos rfl, Datum.lookup_eq_none hFresh]
        rfl
      · rw [if_neg hKey, if_neg hKey]

/-- The message of an abort: the text of what was raised, if it has any. -/
def abortMessage (f : Failure) : Text := orElseText f.text unknownError

/-- How an abort should be answered: a failure without output, with the message below the lines that the
snippet has written to the error console. -/
def abortResult (f : Failure) (lines : List Text) : RunResult :=
  .failure runtime (joinLines (lines ++ [abortMessage f])) none

/-- The members that an answer of the console's reader brings in. -/
inductive Recovered : Except Failure (Option Text) → List (Text × Datum) → Prop
  | unreadable {g : Failure} (hAbort : isAbort g = true) :
      Recovered (.error g) [("logs", .list []), ("errors", .list [])]
  | answered {s : Text} {members : List (Text × Datum)}
      (hRead : Json.read s = .ok (.record members)) : Recovered (.ok (some s)) members

/-- The lines that a record has under a name; without the name it has none. -/
def HasLines (members : List (Text × Datum)) (name : Text) (lines : List Text) : Prop :=
  (members.lookup name).getD (.list []) = textList lines

/-- Members that leave the failure and its message alone: none says that the evaluation went well, and one that
gives an error gives the same message. -/
structure Harmless (f : Failure) (members : List (Text × Datum)) : Prop where
  ok : ∀ d, members.lookup ("ok" : Text) = some d → d.truthy = false
  error : ∀ d, members.lookup ("error" : Text) = some d →
    (if d.truthy then d else .text unknownError) = .text (abortMessage f)

/-- The context in which a snippet was stopped, as it is left to the console's reader. -/
def stopped (access : ContextAccess κ) (code : Option Text) (c : κ) : κ :=
  (access.eval .evaluate (harnessText (code.getD "")) (installed access c)).2

/-- A session in which the evaluation of a snippet is aborted with a failure, and the members that the console's
reader then brings in. -/
structure Aborts (access : ContextAccess κ) (code : Option Text) (s : Session κ) (f : Failure)
    (members : List (Text × Datum)) : Prop where
  isOpen : s.isOpen = true
  installs : ∃ a, (access.eval .install consoleText s.context).1 = .ok a
  raises : (access.eval .evaluate (harnessText (code.getD "")) (installed access s.context)).1 = .error f
  isAbort : isAbort f = true
  recovers : Recovered (access.eval .readConsole readerText (stopped access code s.context)).1 members

theorem Recovered.nodup {answer : Except Failure (Option Text)} {members : List (Text × Datum)}
    (h : Recovered answer members) : (Datum.names members).Nodup := by
  cases h with
  | unreadable hAbort => simp [Datum.names]
  | answered hRead => exact Json.read_distinct hRead

theorem consoleAt_recovered {access : ContextAccess κ} {c : κ} {members : List (Text × Datum)}
    (hAnswer : Recovered (access.eval .readConsole readerText c).1 members) :
    consoleAt access c = .ok (.record members) := by
  unfold consoleAt
  generalize (access.eval .readConsole readerText c).1 = answer at hAnswer
  cases hAnswer with
  | unreadable hAbort => simp [hAbort]
  | answered hRead => simp [parsed, hRead]

/-- After an abort the members that the reader brings in stand over those of the outcome. -/
theorem endAt_aborted {access : ContextAccess κ} {code : Option Text} {s : Session κ} {f : Failure}
    {members : List (Text × Datum)} (hAborts : Aborts access code s f members) :
    endAt access code s.context = resultOfOutcome (.record (overlay (abortOutcome f) members)) := by
  obtain ⟨a, hInstalled⟩ := hAborts.installs
  have hRaises := hAborts.raises
  have hConsole := consoleAt_recovered hAborts.recovers
  unfold stopped at hConsole
  unfold endAt outcomeAt
  rw [hInstalled]
  rcases hEval : access.eval .evaluate (harnessText (code.getD "")) (installed access s.context)
    with ⟨r, c⟩
  rw [hEval] at hRaises hConsole
  dsimp only at hRaises
  subst hRaises
  simp only [hAborts.isAbort, hConsole, ↓reduceIte]
  rfl

/-- A member counts before what the outcome of the abort has under its name. -/
theorem field_merged {members : List (Text × Datum)} (hNodup : (Datum.names members).Nodup)
    (f : Failure) (name : Text) :
    (Datum.record (overlay (abortOutcome f) members)).field name =
      ((members.lookup name).or ((abortOutcome f).lookup name)).getD .null := by
  rw [Datum.field, Datum.field?, lookup_overlay hNodup]

theorem linesOf_merged {members : List (Text × Datum)} (hNodup : (Datum.names members).Nodup)
    (f : Failure) {lines : List Text} (hLines : HasLines members "errors" lines) :
    linesOf (.record (overlay (abortOutcome f) members)) "errors" = textList lines := by
  rw [linesOf, field_merged hNodup]
  rw [HasLines] at hLines
  cases hMember : members.lookup ("errors" : Text) with
  | none =>
      rw [hMember] at hLines
      simpa [abortOutcome, Datum.lookup_cons_ite, Datum.truthy] using hLines
  | some d =>
      rw [hMember] at hLines
      change d = textList lines at hLines
      subst hLines
      cases lines <;> rfl

theorem isEmpty_abortMessage (f : Failure) : (abortMessage f).isEmpty = false :=
  isEmpty_orElseText f.text (by decide)

/-- A failed outcome gives the result of the abort exactly when it has the message of the abort. -/
theorem abortResult_iff (f : Failure) (lines : List Text) {outcome : Datum}
    (hFailed : (outcome.field "ok").truthy = false) (logs : Datum) :
    buildResult outcome logs (textList lines) = .ok (abortResult f lines) ↔
      messageOf outcome = .text (abortMessage f) := by
  rw [buildResult_failed hFailed, ← errorValue_eq_iff lines (truthy_messageOf hFailed)]
  generalize errorValue (textList lines) _ = value
  have hTruthy : (Datum.text (joinLines (lines ++ [abortMessage f]))).truthy = true := by
    simp [Datum.truthy, isEmpty_joinLines_append lines (isEmpty_abortMessage f)]
  constructor
  · intro hResult
    cases value with
    | error e => cases hResult
    | ok d =>
        injection hResult with hResult
        have hError : (if d.truthy then d else .null) = Datum.text (joinLines (lines ++ [abortMessage f])) :=
          congrArg RunResult.error hResult
        split at hError
        · rw [hError]
        · cases hError
  · rintro rfl
    simp [Except.map, hTruthy, abortResult, RunResult.failure]

/-- The message of an outcome over which nothing was put. -/
theorem message_abortOutcome (f : Failure) :
    (let d : Datum := if f.text.isEmpty then .null else .text f.text
     if d.truthy then d else .text unknownError) = .text (abortMessage f) := by
  cases hText : f.text.isEmpty <;> simp [abortMessage, orElseText, hText, Datum.truthy]

/-- An abort is answered as a failure with its own message below the recovered error lines, exactly when no
recovered member says otherwise. The members come from the context that the snippet has run in. -/
theorem execute_abort_iff {access : ContextAccess κ} {code : Option Text} {f : Failure}
    {members : List (Text × Datum)} {j : Journal (Session κ)} {lines : List Text}
    (hAborts : Aborts access code j.host f members) (hLines : HasLines members "errors" lines) :
    (ending (execute access code) j).1 = .ok (abortResult f lines) ↔ Harmless f members := by
  have hNodup := hAborts.recovers.nodup
  have hOk := field_merged hNodup f "ok"
  have hError := field_merged hNodup f "error"
  rw [ending_execute hAborts.isOpen, endAt_aborted hAborts, resultOfOutcome,
    linesOf_merged hNodup f hLines]
  generalize Datum.record (overlay (abortOutcome f) members) = outcome at hOk hError
  constructor
  · intro hResult
    have hFailed : (outcome.field "ok").truthy = false :=
      (success_of_buildResult hResult).symm
    rw [abortResult_iff f lines hFailed, messageOf_failed hFailed] at hResult
    constructor
    · intro d hMember
      rw [hOk, hMember] at hFailed
      exact hFailed
    · intro d hMember
      rw [hError, hMember] at hResult
      exact hResult
  · intro hHarmless
    have hFailed : (outcome.field "ok").truthy = false := by
      rw [hOk]
      cases hMember : members.lookup ("ok" : Text) with
      | none => rfl
      | some d => exact hHarmless.ok d hMember
    rw [abortResult_iff f lines hFailed, messageOf_failed hFailed, hError]
    cases hMember : members.lookup ("error" : Text) with
    | none => exact message_abortOutcome f
    | some d => exact hHarmless.error d hMember

/-- What is raised when the time of an evaluation is over. -/
def interrupted : Failure := .unexpected .script "InternalError: interrupted"

/-- A session whose context stops the snippet and then answers the console's reader with a text. -/
def stoppedSession (answer : Text) : Session ScriptedContext :=
  ⟨⟨[.ok none, .error interrupted, .ok (some answer)], []⟩, true⟩

theorem stoppedSession_aborts {answer : Text} {members : List (Text × Datum)}
    (hRead : Json.read answer = .ok (.record members)) (code : Option Text) :
    Aborts scripted code (stoppedSession answer) interrupted members where
  isOpen := rfl
  installs := ⟨none, rfl⟩
  raises := rfl
  isAbort := rfl
  recovers := .answered hRead

/-- The reader as it was installed gives lines and nothing else. -/
theorem execute_abort_honest :
    Json.read "\x7b\"logs\": [], \"errors\": [\"low\"]\x7d" =
        .ok (.record [("logs", .list []), ("errors", .list [.text "low"])]) ∧
      (ending (execute scripted (some "for(;;);"))
        ⟨stoppedSession "\x7b\"logs\": [], \"errors\": [\"low\"]\x7d", [], []⟩).1 =
        .ok (abortResult interrupted ["low"]) := by
  have hRead : Json.read "\x7b\"logs\": [], \"errors\": [\"low\"]\x7d" =
      .ok (.record [("logs", .list []), ("errors", .list [.text "low"])]) := by rfl
  have hLines : HasLines [("logs", .list []), ("errors", .list [.text "low"])] "errors" ["low"] := rfl
  have hHarmless : Harmless interrupted [("logs", .list []), ("errors", .list [.text "low"])] := by
    constructor <;> simp [Datum.lookup_cons_ite]
  exact ⟨hRead, (execute_abort_iff (stoppedSession_aborts hRead _) hLines).mpr hHarmless⟩

/-- A snippet that replaces the reader of its console makes its abort a success without a message. -/
theorem execute_abort_hijacked :
    Aborts scripted (some "for(;;);") (stoppedSession "\x7b\"ok\": true, \"value\": \"done\"\x7d")
        interrupted [("ok", .boolean true), ("value", .text "done")] ∧
      HasLines [("ok", .boolean true), ("value", .text "done")] "errors" [] ∧
      (ending (execute scripted (some "for(;;);"))
        ⟨stoppedSession "\x7b\"ok\": true, \"value\": \"done\"\x7d", [], []⟩).1 =
        .ok ⟨true, some "→ done", .null, runtime, none, none, none⟩ :=
  ⟨stoppedSession_aborts (by rfl) _, rfl, by rfl⟩

end SnippetService.Snippet
