import SnippetService.Proofs.Http.Backends
import SnippetService.Proofs.Snippet.Interpreter
import SnippetService.Snippet.Context
/-!
What a result tells of a snippet. The harness runs in the context of the snippet, so the only witness of an evaluation
is the outcome that is read back from there. A result is a success exactly when this outcome says so and its console
lines can be joined, and every line that is read back is shown, in order and unchanged. Whether the snippet itself has
completed is another question, and what the snippet leaves behind may come between the two.
-/
namespace SnippetService

open Job

variable {κ σ ρ V : Type}

namespace Snippet

/-- Console lines that can be put one below the other. -/
def Joins (lines : Datum) : Prop := ∃ text, joined lines = .ok text

/-- An outcome that makes a success: it says that the evaluation went well, and its lines can be joined. -/
structure Succeeds (outcome : Datum) : Prop where
  ok : (outcome.field "ok").truthy = true
  logs : Joins (linesOf outcome "logs")
  errors : Joins (linesOf outcome "errors")

/-- Where there are no lines, there is nothing that could fail to be joined. -/
theorem joins_linesOf_iff (outcome : Datum) (name : String) :
    Joins (linesOf outcome name) ↔
      ((linesOf outcome name).truthy = true → Joins (linesOf outcome name)) := by
  constructor
  · exact fun hJoins _ => hJoins
  · intro hTruthy
    cases hLines : (outcome.field name).truthy with
    | true =>
        apply hTruthy
        rw [linesOf, if_pos hLines]
        exact hLines
    | false =>
        rw [linesOf, hLines]
        exact ⟨"", rfl⟩

theorem outputText_ok_iff (logs value : Datum) :
    (∃ o, outputText logs value = .ok o) ↔ (logs.truthy = true → Joins logs) := by
  cases hTruthy : logs.truthy with
  | false => cases value <;> simp [outputText, hTruthy, bind, Except.bind, pure, Except.pure]
  | true =>
      cases hJoined : joined logs with
      | error f =>
          cases value <;> simp [outputText, Joins, hTruthy, hJoined, bind, Except.bind]
      | ok text =>
          cases value <;> simp [outputText, Joins, hTruthy, hJoined, bind, Except.bind, pure, Except.pure]

/-- An evaluation that went well has no message of its own, so its error lines only have to be joined. -/
theorem errorValue_empty_ok_iff (errors : Datum) :
    (∃ e, errorValue errors (.text "") = .ok e) ↔ (errors.truthy = true → Joins errors) := by
  cases hTruthy : errors.truthy with
  | false => simp [errorValue, hTruthy, pure, Except.pure]
  | true =>
      cases hJoined : joined errors with
      | error f => simp [errorValue, Joins, hTruthy, hJoined, bind, Except.bind]
      | ok text =>
          have hEmpty : (Datum.text []).truthy = false := rfl
          simp [errorValue, Joins, hTruthy, hJoined, hEmpty, bind, Except.bind, pure, Except.pure]

/-- An outcome makes a success exactly when it says so and its lines can be joined. -/
theorem resultOfOutcome_success_iff (outcome : Datum) :
    (∃ r, resultOfOutcome outcome = .ok r ∧ r.success = true) ↔ Succeeds outcome := by
  cases outcome with
  | record fields =>
      constructor
      · rintro ⟨r, hResult, hSuccess⟩
        change buildResult _ _ _ = .ok r at hResult
        have hOk : ((Datum.record fields).field "ok").truthy = true := by
          rw [← success_of_buildResult hResult]
          exact hSuccess
        have hMessage : messageOf (.record fields) = .text "" := if_pos hOk
        rw [buildResult_succeeded hOk, hMessage] at hResult
        cases hOutput : outputText (linesOf (.record fields) "logs") ((Datum.record fields).field "value") with
        | error f =>
            rw [hOutput] at hResult
            cases hResult
        | ok output =>
            cases hError : errorValue (linesOf (.record fields) "errors") (.text "") with
            | error f =>
                rw [hOutput, hError] at hResult
                cases hResult
            | ok e =>
                refine ⟨hOk, ?_, ?_⟩
                · exact (joins_linesOf_iff _ _).mpr ((outputText_ok_iff _ _).mp ⟨output, hOutput⟩)
                · exact (joins_linesOf_iff _ _).mpr ((errorValue_empty_ok_iff _).mp ⟨e, hError⟩)
      · intro hSucceeds
        have hLogs := (outputText_ok_iff _ ((Datum.record fields).field "value")).mpr fun _ => hSucceeds.logs
        have hErrors := (errorValue_empty_ok_iff _).mpr fun _ => hSucceeds.errors
        obtain ⟨output, hOutput⟩ := hLogs
        obtain ⟨e, hError⟩ := hErrors
        have hMessage : messageOf (.record fields) = .text "" := if_pos hSucceeds.ok
        rw [resultOfOutcome, buildResult_succeeded hSucceeds.ok, hMessage, hOutput, hError]
        exact ⟨_, rfl, rfl⟩
  | _ =>
      refine iff_of_false ?_ ?_
      · rintro ⟨r, hResult, _⟩
        cases hResult
      · rintro ⟨hOk, _, _⟩
        cases hOk

/-- A run is answered with a success exactly when it comes to an outcome that makes one. -/
theorem success_endAt (x : Executor σ) (access : ContextAccess κ) (code : Option Text) (c : κ)
    (elapsed : Nat) :
    ((x.resultOf (endAt access code c)).timed elapsed).success = true ↔
      ∃ outcome, Comes access (code.getD "") c outcome ∧ Succeeds outcome := by
  have hResult (r : Except Failure RunResult) :
      ((x.resultOf r).timed elapsed).success = true ↔ ∃ result, r = .ok result ∧ result.success = true := by
    cases r with
    | ok result => simp [Executor.resultOf, RunResult.timed]
    | error f => simp [Executor.resultOf, RunResult.timed, RunResult.failure]
  rw [hResult]
  unfold endAt Comes
  cases (access.eval .install consoleText c).1 with
  | error f => simp
  | ok a =>
      cases hOutcome : outcomeAt access (code.getD "") (installed access c) with
      | error f => simp [Except.bind]
      | ok outcome =>
          rw [Except.bind]
          simp only [resultOfOutcome_success_iff]
          simp

/-- The lines that are not empty. -/
def filled (lines : List Text) : List Text := lines.filter (· ≠ "")

/-- A text in which lines are shown: it is made of lines, and among them those that are not empty stand in order. -/
def Shows (text : Text) (lines : List Text) : Prop :=
  ∃ all, text = joinLines all ∧ (filled lines).Sublist all

/-- An error in which lines are shown. Where there is nothing to show, there may be no error. -/
def Displays (error : Datum) (lines : List Text) : Prop :=
  filled lines = [] ∨ ∃ text, error = .text text ∧ Shows text lines

theorem Shows.of_filled_nil {text : Text} {lines : List Text} (hNone : filled lines = []) :
    Shows text lines := by
  refine ⟨[text], by simp [joinLines], ?_⟩
  rw [hNone]
  exact List.nil_sublist _

theorem shows_joinLines (lines more : List Text) : Shows (joinLines (lines ++ more)) lines :=
  ⟨lines ++ more, rfl, List.filter_sublist.trans (List.sublist_append_left lines more)⟩

/-- Lines that make no text are empty lines. -/
theorem filled_of_joinLines_empty {lines : List Text} (hEmpty : joinLines lines = "") :
    filled lines = [] := by
  rcases joinLines_eq_empty_iff.mp hEmpty with rfl | rfl
  · rfl
  · simp [filled]

theorem filled_filled (lines : List Text) : filled (filled lines) = filled lines := by
  simp [filled, List.filter_filter]

theorem filled_sublist {lines more : List Text} (hLines : lines.Sublist more) :
    (filled lines).Sublist (filled more) := hLines.filter _

theorem Shows.filled_nil {lines : List Text} (hShows : Shows "" lines) : filled lines = [] := by
  obtain ⟨all, hText, hLines⟩ := hShows
  have hInner := filled_sublist hLines
  have hNone : filled all = [] := filled_of_joinLines_empty hText.symm
  rw [filled_filled, hNone] at hInner
  exact List.sublist_nil.mp hInner

/-- Fewer lines are shown wherever more are. -/
theorem Shows.mono {text : Text} {lines kept : List Text} (hShows : Shows text lines)
    (hKept : (filled kept).Sublist lines) : Shows text kept := by
  obtain ⟨all, hText, hLines⟩ := hShows
  have hFilled : (filled kept).Sublist (filled lines) := by
    have hInner := filled_sublist hKept
    rwa [filled_filled] at hInner
  exact ⟨all, hText, hFilled.trans hLines⟩

theorem length_le_joinLines {all : List Text} {line : Text} (hMem : line ∈ all) :
    line.length ≤ (joinLines all).length := by
  induction all with
  | nil => cases hMem
  | cons s rest ih =>
      cases rest with
      | nil =>
          rw [List.mem_singleton] at hMem
          exact Nat.le_of_eq (by rw [hMem, joinLines, Text.join_singleton])
      | cons t more =>
          have hSplit : joinLines ([s] ++ t :: more) = joinLines [s] ++ "\n" ++ joinLines (t :: more) :=
            Text.join_append (List.cons_ne_nil s []) (List.cons_ne_nil t more)
          rw [List.singleton_append] at hSplit
          rw [hSplit, joinLines, Text.join_singleton, List.length_append, List.length_append]
          rcases List.mem_cons.mp hMem with rfl | hRest
          · omega
          · have hShort := ih hRest
            omega

/-- A text in which a line is shown has room for it. -/
theorem Shows.length_le {text line : Text} {lines : List Text} (hShows : Shows text lines)
    (hMem : line ∈ filled lines) : line.length ≤ text.length := by
  obtain ⟨all, rfl, hLines⟩ := hShows
  exact length_le_joinLines (hLines.subset hMem)

/-- The value that a snippet has completed with stands below all logged lines. -/
theorem outputText_shows (logs : List Text) (value : Datum) :
    ∃ text, outputText (textList logs) value = .ok text ∧ Shows text logs := by
  refine ⟨_, outputText_textList logs value, ?_⟩
  have hLogs : Shows (joinLines logs) logs := by simpa using shows_joinLines logs []
  split
  · exact hLogs
  · split
    · rename_i hEmpty
      exact .of_filled_nil (filled_of_joinLines_empty (List.isEmpty_iff.mp hEmpty))
    · rename_i hText
      have hLines : logs ≠ [] := by
        rintro rfl
        exact hText rfl
      rw [← joinLines_append_singleton hLines]
      exact shows_joinLines logs _

/-- The message of a snippet stands below all error lines. -/
theorem errorValue_displays (errors : List Text) (message : Text) :
    ∃ e, errorValue (textList errors) (.text message) = .ok e ∧
      Displays (if e.truthy then e else .null) errors := by
  refine ⟨_, errorValue_textList errors message, ?_⟩
  have hShows := shows_joinLines errors (nonempty? message).toList
  generalize joinLines (errors ++ (nonempty? message).toList) = text at hShows
  cases hEmpty : text.isEmpty with
  | true =>
      obtain rfl : text = [] := List.isEmpty_iff.mp hEmpty
      exact .inl hShows.filled_nil
  | false => exact .inr ⟨text, by simp [truthy_text, hEmpty], hShows⟩

/-- What stands for no text stands for no lines. -/
theorem Shows.orElseText {text : Text} {lines : List Text} (hShows : Shows text lines) (fallback : Text) :
    Shows (orElseText text fallback) lines := by
  unfold SnippetService.orElseText
  split
  · rename_i hEmpty
    obtain rfl : text = [] := List.isEmpty_iff.mp hEmpty
    exact .of_filled_nil hShows.filled_nil
  · exact hShows

theorem Displays.mono {error : Datum} {lines kept : List Text} (hDisplays : Displays error lines)
    (hKept : (filled kept).Sublist lines) : Displays error kept := by
  rcases hDisplays with hNone | ⟨text, hText, hShows⟩
  · have hInner := filled_sublist hKept
    rw [filled_filled, hNone] at hInner
    exact .inl (List.sublist_nil.mp hInner)
  · exact .inr ⟨text, hText, hShows.mono hKept⟩

/-- An outcome with lines of text under both names, and a text as its message. -/
structure HoldsLines (outcome : Datum) (logs errors : List Text) : Prop where
  isRecord : ∃ fields, outcome = .record fields
  logs : linesOf outcome "logs" = textList logs
  errors : linesOf outcome "errors" = textList errors
  message : ∃ text, messageOf outcome = .text text

/-- The result of such an outcome shows all its error lines, and all its logged lines if it went well. -/
theorem resultOfOutcome_shows {outcome : Datum} {logs errors : List Text}
    (hHolds : HoldsLines outcome logs errors) :
    ∃ r, resultOfOutcome outcome = .ok r ∧ Displays r.error errors ∧
      (r.success = true → ∃ text, r.output = some text ∧ Shows text logs) := by
  obtain ⟨⟨fields, rfl⟩, hLogs, hErrors, ⟨message, hMessage⟩⟩ := hHolds
  obtain ⟨e, hError, hDisplays⟩ := errorValue_displays errors message
  rw [resultOfOutcome, hLogs, hErrors]
  cases hOk : ((Datum.record fields).field "ok").truthy with
  | true =>
      obtain ⟨output, hOutput, hShows⟩ := outputText_shows logs ((Datum.record fields).field "value")
      rw [buildResult_succeeded hOk, hOutput, hMessage, hError]
      exact ⟨_, rfl, hDisplays, fun _ => ⟨_, rfl, hShows.orElseText noOutput⟩⟩
  | false =>
      rw [buildResult_failed hOk, hMessage, hError]
      refine ⟨_, rfl, hDisplays, fun hSuccess => ?_⟩
      cases hSuccess

/-- Whatever stands in the lines that are read back is shown: the error lines in the error of the result, and the
logged lines in its output if the evaluation went well. -/
theorem execute_shows {access : ContextAccess κ} {code : Text} {j : Journal (Session κ)}
    {outcome : Datum} {logs errors : List Text} (hOpen : j.host.isOpen = true)
    (hComes : Comes access code j.host.context outcome) (hHolds : HoldsLines outcome logs errors) :
    ∃ r, (ending (execute access (some code)) j).1 = .ok r ∧
      (∀ kept, (filled kept).Sublist errors → Displays r.error kept) ∧
      (r.success = true → ∀ kept, (filled kept).Sublist logs →
        ∃ text, r.output = some text ∧ Shows text kept) := by
  obtain ⟨⟨a, hInstall⟩, hOutcome⟩ := hComes
  have hEnd : (ending (execute access (some code)) j).1 = resultOfOutcome outcome := by
    rw [ending_execute hOpen, endAt, hInstall, Option.getD_some, hOutcome]
    rfl
  obtain ⟨r, hResult, hErrors, hLogs⟩ := resultOfOutcome_shows hHolds
  refine ⟨r, hEnd.trans hResult, fun kept hKept => hErrors.mono hKept, ?_⟩
  intro hSuccess kept hKept
  obtain ⟨text, hOutput, hShows⟩ := hLogs hSuccess
  exact ⟨text, hOutput, hShows.mono hKept⟩

/-- A session whose context answers the harness with a text. -/
def answeringSession (answer : Text) : Session ScriptedContext := ⟨⟨[.ok none, .ok (some answer)], []⟩, true⟩

/-- A snippet that has failed, and the lines that it has written before. -/
theorem execute_shows_failed :
    let outcome : Datum := .record [("ok", .boolean false), ("error", .text "bad"),
      ("logs", .list [.text "step"]), ("errors", .list [.text "low", .text ""])]
    let session := answeringSession
      "\x7b\"ok\": false, \"error\": \"bad\", \"logs\": [\"step\"], \"errors\": [\"low\", \"\"]\x7d"
    Comes scripted "x" session.context outcome ∧ HoldsLines outcome ["step"] ["low", ""] ∧
      ∃ r, (ending (execute scripted (some "x")) ⟨session, [], []⟩).1 = .ok r ∧ Displays r.error ["low"] := by
  intro outcome session
  have hComes : Comes scripted "x" session.context outcome := ⟨⟨none, rfl⟩, by rfl⟩
  have hHolds : HoldsLines outcome ["step"] ["low", ""] :=
    ⟨⟨_, rfl⟩, rfl, rfl, ⟨"bad", rfl⟩⟩
  obtain ⟨r, hResult, hErrors, _⟩ := execute_shows (j := ⟨session, [], []⟩) rfl hComes hHolds
  exact ⟨hComes, hHolds, r, hResult, hErrors ["low"] (by decide)⟩

/-- A snippet that logs a line and then makes all copies of arrays empty. -/
def slicedCode : Text :=
  "console.log('secret'); Array.prototype.slice = function () \x7b return []; \x7d; 1"

/-- To that snippet the harness answers without the line, so the output does not show it. -/
theorem execute_shows_sliced :
    let session := answeringSession "\x7b\"ok\":true,\"value\":\"1\",\"logs\":[],\"errors\":[]\x7d"
    (ending (execute scripted (some slicedCode)) ⟨session, [], []⟩).1 =
        .ok ⟨true, some "→ 1", .null, runtime, none, none, none⟩ ∧ ¬Shows "→ 1" ["secret"] := by
  intro session
  refine ⟨by rfl, fun hShows => ?_⟩
  have hRoom : ("secret" : Text).length ≤ ("→ 1" : Text).length := hShows.length_le (by decide)
  exact absurd hRoom (by decide)

end Snippet

namespace Snippet

/-- The outcome that an answer to the harness stands for. An abort is put together with what the console gives then. -/
def ContextAccess.heard (access : ContextAccess κ) : Except Failure (Option Text) × κ → Except Failure Datum
  | (.ok answer, _) => parsed answer
  | (.error f, stopped) =>
    if isAbort f then do
      let fields ← updates (← consoleAt access stopped)
      return .record (overlay (abortOutcome f) fields)
    else .error f

theorem outcomeAt_eq_heard (access : ContextAccess κ) (code : Text) (c : κ) :
    outcomeAt access code c = access.heard (access.eval .evaluate (harnessText code) c) := by
  unfold outcomeAt ContextAccess.heard
  rcases access.eval .evaluate (harnessText code) c with ⟨answer | f, stopped⟩ <;> rfl

/-- An end of the harness that is taken for a success. -/
def Hailed (access : ContextAccess ρ) (I : Interpreter ρ V) (ended : EStateM.Result (Halt V) ρ V) : Prop :=
  ∃ outcome, access.heard (I.answerTo ended) = .ok outcome ∧ Succeeds outcome

/-- A context in which a snippet starts: the console is installed, and the harness has taken its tools. -/
structure Starts (access : ContextAccess ρ) (I : Interpreter ρ V) (c : ρ) (reader stringify : V)
    (start : ρ) : Prop where
  installs : ∃ a, (access.eval .install consoleText c).1 = .ok a
  tools : I.tools (I.begun (installed access c)) = .ok (reader, stringify) start

section

variable {access : ContextAccess ρ} {I : Interpreter ρ V} {code : Text} {c start : ρ} {reader stringify : V}

/-- The harness tells the truth of a snippet: a completed evaluation is taken for a success, and no other is. -/
structure IsTruthful (access : ContextAccess ρ) (I : Interpreter ρ V) (reader stringify : V) (code : Text)
    (start : ρ) : Prop where
  completed : ∀ v r, I.evaluation code start = .ok v r →
    Hailed access I (I.conclusion reader stringify (.completed v) r)
  threw : ∀ v r, I.evaluation code start = .error (.thrown v) r →
    ¬Hailed access I (I.conclusion reader stringify (.threw v) r)
  stopped : ∀ f r, I.evaluation code start = .error (.stopped f) r → ¬Hailed access I (.error (.stopped f) r)

/-- A report that says whether the snippet completed, with lines that can be joined. -/
def IsHonest (I : Interpreter ρ V) (ok : Bool) (ended : EStateM.Result (Halt V) ρ V) : Prop :=
  ∃ v r d, ended = .ok v r ∧ parsed (I.text? v) = .ok d ∧ (d.field "ok").truthy = ok ∧
    Joins (linesOf d "logs") ∧ Joins (linesOf d "errors")

/-- A snippet that leaves alone what the harness needs after it: whatever is reported is reported honestly, and no
abort is taken for a success. -/
structure LeavesAlone (access : ContextAccess ρ) (I : Interpreter ρ V) (reader stringify : V) (code : Text)
    (start : ρ) : Prop where
  completed : ∀ v r w s, I.evaluation code start = .ok v r → I.render stringify v r = .ok w s →
    IsHonest I true (I.report reader stringify [("ok", I.ofBool true), ("value", w)] s)
  threw : ∀ v r w s, I.evaluation code start = .error (.thrown v) r → I.describe v r = .ok w s →
    IsHonest I false (I.report reader stringify [("ok", I.ofBool false), ("error", w)] s)
  aborted : ∀ h r, (I.attempt code >>= I.conclusion reader stringify) start = .error h r →
    ¬Hailed access I (.error h r)

/-- An honest report is taken for a success exactly if it tells of one. -/
theorem IsHonest.hailed_iff {ok : Bool} {ended : EStateM.Result (Halt V) ρ V} (hHonest : IsHonest I ok ended) :
    Hailed access I ended ↔ ok = true := by
  obtain ⟨v, r, d, rfl, hParsed, hOk, hLogs, hErrors⟩ := hHonest
  have hHeard : access.heard (I.answerTo (.ok v r)) = .ok d := hParsed
  constructor
  · rintro ⟨outcome, hOutcome, hSucceeds⟩
    rw [hHeard] at hOutcome
    cases hOutcome
    exact hOk.symm.trans hSucceeds.ok
  · exact fun hTrue => ⟨d, hHeard, hOk.trans hTrue, hLogs, hErrors⟩

/-- What a snippet comes to makes a success exactly if its harness ends in one. -/
theorem succeeds_iff_hailed (hFollows : access.Follows I code) (hStarts : Starts access I c reader stringify start) :
    (∃ outcome, Comes access code c outcome ∧ Succeeds outcome) ↔
      Hailed access I ((I.attempt code >>= I.conclusion reader stringify) start) := by
  have hOutcome := outcomeAt_eq_heard access code (installed access c)
  rw [hFollows, I.harness_ready hStarts.tools] at hOutcome
  simp only [Comes, hOutcome, hStarts.installs, true_and]
  rfl

/-- Success and completion are the same for a snippet exactly where its harness tells the truth. -/
theorem isTruthful_iff : IsTruthful access I reader stringify code start ↔
    (Hailed access I ((I.attempt code >>= I.conclusion reader stringify) start) ↔
      ∃ v r, I.evaluation code start = .ok v r) := by
  constructor
  · intro hTruthful
    cases hEnd : I.evaluation code start with
    | ok v r =>
        rw [I.concluded_completed hEnd]
        exact iff_of_true (hTruthful.completed v r hEnd) ⟨v, r, rfl⟩
    | error h r =>
        cases h with
        | thrown v =>
            rw [I.concluded_threw hEnd]
            exact iff_of_false (hTruthful.threw v r hEnd) nofun
        | stopped f =>
            rw [I.concluded_stopped hEnd]
            exact iff_of_false (hTruthful.stopped f r hEnd) nofun
  · intro hSame
    refine ⟨fun v r hEnd => ?_, fun v r hEnd hHailed => ?_, fun f r hEnd hHailed => ?_⟩
    · rw [← I.concluded_completed hEnd]
      exact hSame.mpr ⟨v, r, hEnd⟩
    · rw [← I.concluded_threw hEnd, hSame, hEnd] at hHailed
      obtain ⟨w, s, hNone⟩ := hHailed
      cases hNone
    · rw [← I.concluded_stopped hEnd, hSame, hEnd] at hHailed
      obtain ⟨w, s, hNone⟩ := hHailed
      cases hNone

namespace LeavesAlone

variable {v : V} {r : ρ}

/-- A completed snippet is a success exactly if its value is shown. -/
theorem hailed_completed (hAlone : LeavesAlone access I reader stringify code start)
    (hEnd : I.evaluation code start = .ok v r) :
    Hailed access I ((I.attempt code >>= I.conclusion reader stringify) start) ↔
      ∃ w s, I.render stringify v r = .ok w s := by
  have hAborted := hAlone.aborted
  rw [I.concluded_completed hEnd] at hAborted ⊢
  cases hRender : I.render stringify v r with
  | ok w s =>
      rw [I.conclusion_completed hRender, (hAlone.completed v r w s hEnd hRender).hailed_iff]
      exact iff_of_true rfl ⟨w, s, rfl⟩
  | error h s =>
      have hUnrendered : I.conclusion reader stringify (.completed v) r = .error h s :=
        I.conclusion_unrendered hRender
      rw [hUnrendered]
      refine iff_of_false (hAborted h s hUnrendered) ?_
      rintro ⟨w, q, hSame⟩
      cases hSame

/-- A snippet that throws is no success, whatever is told of the value. -/
theorem not_hailed_threw (hAlone : LeavesAlone access I reader stringify code start)
    (hEnd : I.evaluation code start = .error (.thrown v) r) :
    ¬Hailed access I ((I.attempt code >>= I.conclusion reader stringify) start) := by
  have hAborted := hAlone.aborted
  rw [I.concluded_threw hEnd] at hAborted ⊢
  cases hDescribe : I.describe v r with
  | ok w s =>
      rw [I.conclusion_threw hDescribe, (hAlone.threw v r w s hEnd hDescribe).hailed_iff]
      exact Bool.false_ne_true
  | error h s =>
      have hUndescribed : I.conclusion reader stringify (.threw v) r = .error h s :=
        I.conclusion_undescribed hDescribe
      rw [hUndescribed]
      exact hAborted h s hUndescribed

theorem not_hailed_stopped (hAlone : LeavesAlone access I reader stringify code start) {f : Failure}
    (hEnd : I.evaluation code start = .error (.stopped f) r) :
    ¬Hailed access I ((I.attempt code >>= I.conclusion reader stringify) start) := by
  have hAborted := hAlone.aborted
  rw [I.concluded_stopped hEnd] at hAborted ⊢
  exact hAborted _ _ rfl

/-- A snippet that leaves the harness alone is a success exactly if it completes and its value can be shown. -/
theorem hailed_iff (hAlone : LeavesAlone access I reader stringify code start) :
    Hailed access I ((I.attempt code >>= I.conclusion reader stringify) start) ↔
      ∃ v r w s, I.evaluation code start = .ok v r ∧ I.Renders stringify v r w s := by
  simp only [← I.render_eq_ok_iff]
  constructor
  · intro hHailed
    cases hEnd : I.evaluation code start with
    | ok v r =>
        obtain ⟨w, s, hRender⟩ := (hAlone.hailed_completed hEnd).mp hHailed
        exact ⟨v, r, w, s, rfl, hRender⟩
    | error h r =>
        cases h with
        | thrown v => exact absurd hHailed (hAlone.not_hailed_threw hEnd)
        | stopped f => exact absurd hHailed (hAlone.not_hailed_stopped hEnd)
  · rintro ⟨v, r, w, s, hEnd, hRender⟩
    exact (hAlone.hailed_completed hEnd).mpr ⟨w, s, hRender⟩

/-- A completed snippet that leaves the harness alone fails within its limits exactly if its value cannot be shown. -/
theorem not_hailed_iff (hAlone : LeavesAlone access I reader stringify code start)
    (hEnd : I.evaluation code start = .ok v r) (hWithin : ∀ f s, I.render stringify v r ≠ .error (.stopped f) s) :
    ¬Hailed access I ((I.attempt code >>= I.conclusion reader stringify) start) ↔ I.Unshown stringify v r := by
  rw [hAlone.hailed_completed hEnd, I.unshown_iff]
  cases hRender : I.render stringify v r with
  | ok w s => exact iff_of_false (not_not_intro ⟨w, s, rfl⟩) nofun
  | error h s =>
      cases h with
      | thrown e => exact iff_of_true nofun ⟨e, s, rfl⟩
      | stopped f => exact absurd hRender (hWithin f s)

end LeavesAlone

end

end Snippet

namespace Backend

open Snippet

/-- What the success of a snippet says. It is the same as completion exactly where the harness tells the truth. Behind a
snippet that leaves the harness alone, it says that the snippet has completed and that its value could be shown, and a
completed snippet is a failure within the limits exactly if every way to show its value throws. -/
theorem scripts_success_iff (p : Platform ρ) (s : Settings) (t : Moment) {I : Interpreter ρ V} {code : Text}
    {session : Session ρ} {reader stringify : V} {start : ρ} (hCode : Executor.hasCode (some code) = true)
    (hSession : p.session s t.chance = .ok session) (hFollows : p.contexts.access.Follows I code)
    (hStarts : Starts p.contexts.access I session.context reader stringify start)
    (hAnswerable : Answerable (p.scriptEnd s t.chance (some code))) (options : Options) (j : Journal σ) :
    ∃ result, (ending ((scripts p s).execute t (some code) options) j).1 = .ok result ∧
      ((result.success = true ↔ ∃ v r, I.evaluation code start = .ok v r) ↔
        IsTruthful p.contexts.access I reader stringify code start) ∧
      (LeavesAlone p.contexts.access I reader stringify code start →
        (result.success = true ↔
          ∃ v r w r', I.evaluation code start = .ok v r ∧ I.Renders stringify v r w r') ∧
        ∀ v r, I.evaluation code start = .ok v r → (∀ f r', I.render stringify v r ≠ .error (.stopped f) r') →
          (result.success = false ↔ I.Unshown stringify v r)) := by
  refine ⟨_, ending_scripts p s t hAnswerable hCode options j, ?_⟩
  have hEnd : p.scriptEnd s t.chance (some code) = endAt p.contexts.access (some code) session.context := by
    rw [Platform.scriptEnd, hSession]
    rfl
  rw [hEnd, ← Bool.not_eq_true, success_endAt, Option.getD_some, succeeds_iff_hailed hFollows hStarts]
  exact ⟨isTruthful_iff.symm, fun hAlone => ⟨hAlone.hailed_iff, fun v r => hAlone.not_hailed_iff⟩⟩

end Backend

namespace Snippet

/-- What a value of a prepared interpreter is seen to be. -/
inductive Seen where
  | nothing
  | truth (b : Bool)
  | number (n : Nat)
  | text (s : Text)
  | object

/-- Take the next answer. -/
def nextAnswer : Work (List (Except Seen Seen)) Seen Seen
  | [] => .ok .nothing []
  | .ok v :: rest => .ok v rest
  | .error v :: rest => .error (.thrown v) rest

/-- An interpreter that gives prepared answers to whatever it is asked. -/
def prepared : Interpreter (List (Except Seen Seen)) Seen where
  undefined := .nothing
  null := .nothing
  ofBool := .truth
  ofNat := .number
  isNullish v := v matches .nothing
  isNullish_undefined := rfl
  isTruthy
    | .nothing => false
    | .truth b => b
    | .number n => n != 0
    | .text s => !s.isEmpty
    | .object => true
  typeName _ v := if v matches .object then "object" else "string"
  text?
    | .text s => some s
    | _ => none
  global _ := nextAnswer
  get _ _ := nextAnswer
  put _ _ _ := do let _ ← nextAnswer
  call _ _ _ := nextAnswer
  object _ := nextAnswer
  program _ := nextAnswer
  begun := id
  told
    | .text s, r => (s, r)
    | _, r => ("", r)

/-- A platform on which one code gets these answers. -/
def preparedPlatform (code : Text) (answers : List (Except Seen Seen)) : Platform (List (Except Seen Seen)) where
  contexts := { access := prepared.access code, fresh := fun _ _ _ => .ok answers }
  surroundings _ := .small
  steps _ _ := 0
  envelopeLimits := ⟨0, 0⟩
  issueLimits := ⟨0, 0⟩

/-- The answers while the console is installed, and while the harness takes its tools. -/
def toolAnswers : List (Except Seen Seen) := [.ok .nothing, .ok .object, .ok .object, .ok .object, .ok .object]

/-- The answers while a report is made of which this text is written. -/
def reportAnswers (written : Text) : List (Except Seen Seen) :=
  [.ok .object, .ok .object, .ok .object, .ok .nothing, .ok .object, .ok .nothing, .ok (.text written)]

/-- A context in which the console is installed and the tools are taken is one in which a snippet starts. -/
theorem starts_prepared (code : Text) (answers : List (Except Seen Seen)) :
    Starts (prepared.access code) prepared (toolAnswers ++ answers) .object .object answers where
  installs := ⟨none, rfl⟩
  tools := rfl

/-- The session of a prepared platform. -/
theorem session_prepared (code : Text) (answers : List (Except Seen Seen)) (s : Settings) (chance : Chance) :
    (preparedPlatform code answers).session s chance = .ok ⟨answers, true⟩ := rfl

/-- What a prepared platform answers, where it comes to a result. -/
theorem ending_prepared {code : Text} {answers : List (Except Seen Seen)} {result : RunResult}
    (hCode : Executor.hasCode (some code) = true)
    (hEnd : endAt (prepared.access code) (some code) answers = .ok result) (s : Settings) (t : Moment)
    (options : Options) (j : Journal σ) :
    (ending ((Backend.scripts (preparedPlatform code answers) s).execute t (some code) options) j).1 =
      .ok (result.timed t.elapsed) := by
  have hScript : (preparedPlatform code answers).scriptEnd s t.chance (some code) = .ok result := hEnd
  have hAnswerable : Answerable ((preparedPlatform code answers).scriptEnd s t.chance (some code)) := by
    rw [hScript]
    trivial
  rw [Backend.ending_scripts _ _ _ hAnswerable hCode, hScript]
  rfl

end Snippet

namespace Backend

open Snippet

/-- The answers while a snippet comes to the text `ab`. -/
def plainAnswers : List (Except Seen Seen) :=
  [.ok (.text "ab"), .ok .object, .ok (.text "ab")] ++
    reportAnswers "\x7b\"ok\":true,\"value\":\"ab\",\"logs\":[],\"errors\":[]\x7d"

/-- A snippet that leaves the harness alone, completes, and has a value that can be shown. -/
theorem scripts_success_plain :
    let code : Text := "'a' + 'b'"
    let p := preparedPlatform code (toolAnswers ++ plainAnswers)
    LeavesAlone p.contexts.access prepared .object .object code plainAnswers ∧
      ∀ s t (j : Journal Unit), ∃ result,
        (ending ((scripts p s).execute t (some code) []) j).1 = .ok result ∧ result.success = true := by
  intro code p
  have hAlone : LeavesAlone p.contexts.access prepared .object .object code plainAnswers :=
    { completed := by
        intro v r w r' hEnd hRender
        cases hEnd
        cases hRender
        exact ⟨_, _, _, rfl, rfl, rfl, ⟨_, rfl⟩, _, rfl⟩
      threw := by
        intro v r w r' hEnd
        cases hEnd
      aborted := by
        intro h r hEnd
        cases hEnd }
  refine ⟨hAlone, fun s t j => ?_⟩
  have hScript : p.scriptEnd s t.chance (some code) =
      .ok ⟨true, some "→ ab", .null, runtime, none, none, none⟩ := by rfl
  have hAnswerable : Answerable (p.scriptEnd s t.chance (some code)) := by
    rw [hScript]
    trivial
  obtain ⟨result, hResult, -, hSuccess⟩ := scripts_success_iff p s t (by decide) (session_prepared code _ s t.chance)
    (fun _ => rfl) (starts_prepared code plainAnswers) hAnswerable [] j
  exact ⟨result, hResult, (hSuccess hAlone).1.mpr ⟨_, _, _, _, rfl, .text rfl (.primitive (by decide)) rfl⟩⟩

/-- A snippet whose value throws in each of the ways to show it. -/
def unshownCode : Text :=
  "(\x7btoJSON: function () \x7b throw 1; \x7d, toString: function () \x7b throw 2; \x7d, " ++
    "get [Symbol.toStringTag]() \x7b throw new Error('tag'); \x7d\x7d)"

/-- The answers to that snippet. Its value is an object; writing it throws, its text throws, and its class throws. The
console is read after this abort. -/
def unshownAnswers : List (Except Seen Seen) :=
  [.ok .object, .error (.number 1), .ok .object, .error (.number 2), .ok .object, .ok .object, .ok .object,
    .ok .object, .error (.text "Error: tag"), .ok .object, .ok .object, .ok .object, .ok .object,
    .ok (.text "\x7b\"logs\":[],\"errors\":[]\x7d")]

/-- That snippet completes and leaves the harness alone, and it is answered with a failure. -/
theorem scripts_success_unshown :
    let p := preparedPlatform unshownCode (toolAnswers ++ unshownAnswers)
    LeavesAlone p.contexts.access prepared .object .object unshownCode unshownAnswers ∧
      (∃ v r, prepared.evaluation unshownCode unshownAnswers = .ok v r) ∧
      ∀ s t (j : Journal Unit), (ending ((scripts p s).execute t (some unshownCode) []) j).1 =
        .ok ⟨false, none, .text "Error: tag", runtime, some t.elapsed, none, none⟩ := by
  intro p
  have hEnd : endAt (prepared.access unshownCode) (some unshownCode) (toolAnswers ++ unshownAnswers) =
      .ok ⟨false, none, .text "Error: tag", runtime, none, none, none⟩ := by rfl
  have hAlone : LeavesAlone p.contexts.access prepared .object .object unshownCode unshownAnswers :=
    { completed := by
        intro v r w r' hEnd hRender
        cases hEnd
        cases hRender
      threw := by
        intro v r w r' hEnd
        cases hEnd
      aborted := by
        intro h r hEnd hHailed
        cases hEnd
        obtain ⟨outcome, hHeard, hSucceeds⟩ := hHailed
        cases hHeard
        cases hSucceeds.ok }
  exact ⟨hAlone, ⟨_, _, rfl⟩, fun s t j => ending_prepared (by decide) hEnd s t [] j⟩

/-- A snippet that throws, and has laid down what is written of every object. -/
def rewritingCode : Text :=
  "Object.prototype.toJSON = function () \x7b return \x7bok: true, value: 'fine'\x7d; \x7d; throw new Error('bad')"

/-- The answers to that snippet. What it throws is described by its message, and then the outcome is written. -/
def rewritingAnswers : List (Except Seen Seen) :=
  [.error .object, .ok (.text "bad"), .ok .object, .ok (.text "bad"), .ok (.text "bad")] ++
    reportAnswers "\x7b\"ok\":true,\"value\":\"fine\"\x7d"

/-- That snippet throws, and it is answered with a success. -/
theorem scripts_success_rewritten :
    let p := preparedPlatform rewritingCode (toolAnswers ++ rewritingAnswers)
    (∃ v r, prepared.evaluation rewritingCode rewritingAnswers = .error (.thrown v) r) ∧
      ∀ s t (j : Journal Unit), (ending ((scripts p s).execute t (some rewritingCode) []) j).1 =
        .ok ⟨true, some "→ fine", .null, runtime, some t.elapsed, none, none⟩ := by
  intro p
  have hEnd : endAt (prepared.access rewritingCode) (some rewritingCode) (toolAnswers ++ rewritingAnswers) =
      .ok ⟨true, some "→ fine", .null, runtime, none, none, none⟩ := by rfl
  exact ⟨⟨_, _, rfl⟩, fun s t j => ending_prepared (by decide) hEnd s t [] j⟩

end Backend

end SnippetService
