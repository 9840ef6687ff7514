import SnippetService.Proofs.Execution.Answer
import SnippetService.Proofs.Sandbox.Session
import SnippetService.Sandbox.Prepared
/-!
What the results of remote code promise. A failed result should have no output, and its error should be a text that is
not empty. The coordinator keeps this promise for whatever is raised; but a run that the sandbox ends with an error is
answered with its output all the same, and has an error only if the sandbox tells one.
-/
namespace SnippetService

/-- The promise that is made of every result: a failed one has no output, and an error that says something. -/
structure RunResult.KeepsPromise (r : RunResult) : Prop where
  output : r.success = false → r.output = none
  error : r.success = false → ∃ s, r.error = .text s ∧ s ≠ ""

namespace Sandbox

open Job

variable {κ : Type}

/-- A run of code in the sandbox: the code is not blank, a session is had for it, and the sandbox gives the run back. -/
structure Obtains (p : Provider κ) (code : Option Text) (world : κ) (run : Run) : Prop where
  given : Executor.hasCode code = true
  had : (p.create world).1 = .ok ()
  gives : (p.run (code.getD "") (p.create world).2).1 = .ok run

/-- A run that tells why it ended: by the name of its error, which is a text, or on the error channel where there is no
name that counts. -/
def Run.TellsWhy (run : Run) (name : Datum) : Prop :=
  if name.truthy then ∃ s, name = .text s else joinLines run.stderr ≠ ""

section

variable {p : Provider κ} {key : Option String} {code : Option Text} {options : Options} {elapsed : Nat}
  {j : Journal (Session κ)} {run : Run}

theorem success_result : run.result.success = true ↔ run.error = none := by
  simp [Run.result]

/-- Every run has output: what it has written, or what stands for nothing. -/
theorem output_result (run : Run) : run.result.output ≠ none := by
  simp [Run.result]

theorem error_result_iff {name : Datum} (hError : run.error = some name) :
    (∃ s, run.result.error = .text s ∧ s ≠ "") ↔ run.TellsWhy name := by
  have hDatum : run.result.error = run.errorDatum := rfl
  rw [hDatum, Run.errorDatum, hError, Run.TellsWhy]
  cases hName : name.truthy with
  | true =>
      simp only [hName, ↓reduceIte]
      constructor
      · rintro ⟨s, hText, -⟩
        exact ⟨s, hText⟩
      · rintro ⟨s, rfl⟩
        exact ⟨s, rfl, by simpa [Datum.truthy] using hName⟩
  | false =>
      simp only [hName, Bool.false_eq_true, ↓reduceIte, nonempty?]
      rw [Text.ofString_empty]
      by_cases hStderr : joinLines run.stderr = []
      · simp [hStderr]
      · simp [hStderr]

/-- The result of a run keeps the promise exactly if no error has ended the run. -/
theorem keepsPromise_run_iff : (run.result.timed elapsed).KeepsPromise ↔ run.error = none := by
  constructor
  · intro hKeeps
    cases hError : run.error with
    | none => rfl
    | some name =>
        have hFailed : run.result.success = false := by simp [Run.result, hError]
        exact absurd (hKeeps.output hFailed) (output_result run)
  · intro hError
    have hSuccess : (run.result.timed elapsed).success = true := success_result.mpr hError
    constructor
    · intro hFailed
      rw [hSuccess] at hFailed
      cases hFailed
    · intro hFailed
      rw [hSuccess] at hFailed
      cases hFailed

/-- A result of the coordinator itself keeps the promise. -/
theorem keepsPromise_failure {x : Executor (Session κ)} {f : Failure} {r : RunResult}
    (hAnswers : x.Answers elapsed (.error f) r) : r.success = false ∧ r.KeepsPromise := by
  have hText (s : Text) : ∃ t, Datum.text (if s = "" then "Execution failed" else s) = .text t ∧ t ≠ "" := by
    refine ⟨_, rfl, ?_⟩
    split
    · decide
    · assumption
  cases hAnswers with
  | classified c message hint => exact ⟨rfl, fun _ => rfl, fun _ => hText message⟩
  | unexpected kind text => exact ⟨rfl, fun _ => rfl, fun _ => hText text⟩

/-- The factory and the run of a call give a result exactly if the sandbox gives a run. -/
theorem worked_eq_ok_iff {r : RunResult} (hGiven : Executor.hasCode code = true) :
    (executor (some p) key).worked code options j = .ok r ↔
      ∃ run, Obtains p code j.host.world run ∧ r = run.result := by
  obtain ⟨text, rfl⟩ := exists_of_hasCode hGiven
  cases hCreate : (p.create j.host.world).1 with
  | error f =>
      have hBuild : ending (executor (some p) key).build (j.noted .build) = (.error f, _) :=
        ending_build_refused (j := j.noted .build) hCreate
      rw [Executor.worked, hBuild]
      constructor
      · intro hResult
        cases hResult
      · rintro ⟨run, hObtains, -⟩
        rw [hObtains.had] at hCreate
        cases hCreate
  | ok u =>
      have hBuild : ending (executor (some p) key).build (j.noted .build) = (.ok (engine p), _) :=
        ending_build_had (j := j.noted .build) hCreate
      have hRun : (executor (some p) key).worked (some text) options j =
          (p.run text (p.create j.host.world).2).1.map Run.result := by
        rw [Executor.worked, hBuild]
        exact ending_perform_held text rfl
      rw [hRun]
      constructor
      · intro hResult
        cases hGives : (p.run text (p.create j.host.world).2).1 with
        | error f =>
            rw [hGives] at hResult
            cases hResult
        | ok run =>
            rw [hGives] at hResult
            cases hResult
            exact ⟨run, ⟨hGiven, hCreate, hGives⟩, rfl⟩
      · rintro ⟨run, hObtains, rfl⟩
        have hGives := hObtains.gives
        rw [Option.getD_some] at hGives
        rw [hGives]
        rfl

/-- A result in live mode is that of the run that the sandbox gives, or a failure that keeps the promise. -/
theorem answered_live (hKey : ¬IsFalsy key) {r : RunResult}
    (hAnswer : (ending ((executor (some p) key).execute elapsed code options) j).1 = .ok r) :
    (∃ run, Obtains p code j.host.world run ∧ r = run.result.timed elapsed) ∨
      (¬∃ run, Obtains p code j.host.world run) ∧ r.success = false ∧ r.KeepsPromise := by
  cases hGiven : Executor.hasCode code with
  | false =>
      have hRejected : (executor (some p) key).hasInput code options = false := hGiven
      rw [Executor.ending_execute_rejected hRejected] at hAnswer
      cases hAnswer
      refine .inr ⟨?_, rfl, fun _ => rfl, fun _ => ⟨_, rfl, by decide⟩⟩
      rintro ⟨run, hObtains⟩
      exact Bool.false_ne_true (hGiven.symm.trans hObtains.given)
  | true =>
      have hOn : isConfigured (some p) key = true := isConfigured_iff.mpr ⟨⟨p, rfl⟩, hKey⟩
      rw [Executor.ending_execute_parts hGiven (ending_preflight_live hOn), Executor.conclude_eq_ok_iff] at hAnswer
      obtain ⟨-, hAnswers⟩ := hAnswer
      cases hWorked : (executor (some p) key).worked code options j with
      | ok result =>
          obtain ⟨run, hObtains, rfl⟩ := (worked_eq_ok_iff hGiven).mp hWorked
          rw [hWorked] at hAnswers
          cases hAnswers
          exact .inl ⟨run, hObtains, rfl⟩
      | error f =>
          refine .inr ⟨?_, keepsPromise_failure (hWorked ▸ hAnswers)⟩
          rintro ⟨run, hObtains⟩
          have hOk : (executor (some p) key).worked code options j = .ok run.result :=
            (worked_eq_ok_iff hGiven).mpr ⟨run, hObtains, rfl⟩
          rw [hWorked] at hOk
          cases hOk

/-- Where the provider fails only in ways that can be answered, every call is answered. -/
theorem answered_ordinary (hKey : ¬IsFalsy key) (hOrdinary : p.IsOrdinary) :
    ∃ r, (ending ((executor (some p) key).execute elapsed code options) j).1 = .ok r := by
  cases hGiven : Executor.hasCode code with
  | false =>
      have hRejected : (executor (some p) key).hasInput code options = false := hGiven
      rw [Executor.ending_execute_rejected hRejected]
      exact ⟨_, rfl⟩
  | true =>
      have hOn : isConfigured (some p) key = true := isConfigured_iff.mpr ⟨⟨p, rfl⟩, hKey⟩
      obtain ⟨text, rfl⟩ := exists_of_hasCode hGiven
      cases hCreate : (p.create j.host.world).1 with
      | error f => exact ⟨_, ending_execute_refused hGiven hOn hOrdinary hCreate⟩
      | ok u => exact ⟨_, ending_execute_had hGiven hOn hOrdinary hCreate⟩

/-- In live mode a provider that fails only in ways that can be answered has every call answered. An answer is a success
exactly if the sandbox gives back a run that no error has ended. It keeps the promise exactly if the sandbox does not
give back a run that an error has ended: such a run is answered with the output that it has written or with the words
for none, and with an error that says something only where the run tells why it ended. -/
theorem execute_keepsPromise_iff (p : Provider κ) {key : Option String} (hKey : ¬IsFalsy key) (code : Option Text)
    (options : Options) (elapsed : Nat) (j : Journal (Session κ)) :
    let answer := (ending ((executor (some p) key).execute elapsed code options) j).1
    (p.IsOrdinary → ∃ r, answer = .ok r) ∧
    ∀ r, answer = .ok r →
      (r.success = true ↔ ∃ run, Obtains p code j.host.world run ∧ run.error = none) ∧
      (r.KeepsPromise ↔ ¬∃ run name, Obtains p code j.host.world run ∧ run.error = some name) ∧
      ∀ run name, Obtains p code j.host.world run → run.error = some name →
        r.output = some (if joinLines run.stdout = "" then ("Code executed successfully (no output)" : Text)
          else joinLines run.stdout) ∧
        ((∃ s, r.error = .text s ∧ s ≠ "") ↔ run.TellsWhy name) := by
  intro answer
  refine ⟨answered_ordinary hKey, fun r hAnswer => ?_⟩
  obtain ⟨run, hObtains, rfl⟩ | ⟨hNone, hFailed, hKeeps⟩ := answered_live hKey hAnswer
  · have hOnly (other : Run) (hOther : Obtains p code j.host.world other) : other = run :=
      Except.ok.inj (hOther.gives.symm.trans hObtains.gives)
    refine ⟨?_, ?_, ?_⟩
    · refine success_result.trans ⟨fun hError => ⟨run, hObtains, hError⟩, ?_⟩
      rintro ⟨other, hOther, hError⟩
      rwa [hOnly other hOther] at hError
    · rw [keepsPromise_run_iff]
      constructor
      · rintro hError ⟨other, name, hOther, hName⟩
        rw [hOnly other hOther, hError] at hName
        cases hName
      · intro hNone
        cases hError : run.error with
        | none => rfl
        | some name => exact absurd ⟨run, name, hObtains, hError⟩ hNone
    · rintro other name hOther hError
      obtain rfl := hOnly other hOther
      exact ⟨congrArg some (Executor.orElseText_eq _ _), error_result_iff hError⟩
  · refine ⟨?_, ?_, ?_⟩
    · rw [hFailed]
      exact iff_of_false nofun fun ⟨run, hObtains, _⟩ => hNone ⟨run, hObtains⟩
    · exact iff_of_true hKeeps fun ⟨run, _, hObtains, _⟩ => hNone ⟨run, hObtains⟩
    · exact fun run _ hObtains => absurd ⟨run, hObtains⟩ hNone

end

/-- A provider whose sessions are refused. -/
def refusing : Script where
  onCreate := some (.classified .provisioning "sandbox quota exceeded" none)

/-- Where no session can be had, the promise is kept. -/
theorem execute_keepsPromise_refused :
    ∃ r, (ending ((executor (some refusing.provider) (some "key")).execute 7 (some "1/0") []) ⟨⟨{}, false⟩, [], []⟩).1 =
      .ok r ∧ r.KeepsPromise := by
  have hKey : ¬IsFalsy (some "key") := by simp [IsFalsy]
  have hOrdinary : refusing.provider.IsOrdinary := ⟨fun _ => rfl, fun _ _ => trivial, fun _ => trivial⟩
  obtain ⟨hAnswered, hTold⟩ := execute_keepsPromise_iff refusing.provider hKey (some "1/0") [] 7 ⟨⟨{}, false⟩, [], []⟩
  obtain ⟨r, hAnswer⟩ := hAnswered hOrdinary
  refine ⟨r, hAnswer, (hTold r hAnswer).2.1.mpr ?_⟩
  rintro ⟨run, name, hObtains, -⟩
  have hHad := hObtains.had
  cases hHad

/-- A provider whose sandbox gives back what was written before the error. -/
def partialRun : Script where
  answer := .ok { stdout := ["partial"], error := some (.text "ZeroDivisionError") }

/-- A provider whose sandbox gives back an error without a name, and nothing else. -/
def namelessRun : Script where
  answer := .ok { error := some (.text "") }

/-- The promise is broken by runs that an error has ended: the answers have output, and one of them no error. -/
theorem execute_breaks_promise :
    let answer (s : Script) :=
      (ending ((executor (some s.provider) (some "key")).execute 7 (some "1/0") []) ⟨⟨{}, false⟩, [], []⟩).1
    (∃ r, answer partialRun = .ok r ∧ r.success = false ∧ r.output = some "partial" ∧
      r.error = .text "ZeroDivisionError" ∧ ¬r.KeepsPromise) ∧
    (∃ r, answer namelessRun = .ok r ∧ r.success = false ∧
      r.output = some "Code executed successfully (no output)" ∧ r.error = .null ∧ ¬r.KeepsPromise) := by
  intro answer
  refine ⟨⟨_, rfl, rfl, rfl, rfl, fun hKeeps => ?_⟩, ⟨_, rfl, rfl, rfl, rfl, fun hKeeps => ?_⟩⟩
  · exact absurd (hKeeps.output rfl) nofun
  · exact absurd (hKeeps.output rfl) nofun

end Sandbox

end SnippetService
