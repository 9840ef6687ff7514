import SnippetService.Execution.Prepared
import SnippetService.Proofs.Execution.Attempt
import SnippetService.Proofs.Text.Point
/-!
The answer of a call, whatever its parts come to. What the factory or the run comes to decides the answer; the
disposal has no part in it, unless it shuts the process down. A call has no answer only where one of the three parts
is a shutdown.
-/
namespace SnippetService

variable {σ : Type}

/-- A failure that no answer can be made of. -/
def Failure.IsShutdown (f : Failure) : Prop := f.isAnswerable = false

/-- An end that is a shutdown. -/
def Job.IsShutdown {α : Type} (r : Except Failure α) : Prop := ∃ f, r = .error f ∧ f.IsShutdown

namespace Executor

open Job

variable (x : Executor σ) (code : Option Text) (options : Options) (k : Journal σ)

/-- What the factory and the run of a call come to: the failure of the factory, if it gives no engine, and the end of
the run otherwise. -/
def worked : Except Failure RunResult :=
  match ending x.build (k.noted .build) with
  | (.ok e, l) => (ending (x.run e code options) l).1
  | (.error f, _) => .error f

/-- What the disposal of a call comes to. Without an engine there is nothing to dispose of. -/
def disposed : Except Failure Unit :=
  match ending x.build (k.noted .build) with
  | (.ok e, l) => (ending e.dispose ((x.ran e code options l).noted .dispose)).1
  | (.error _, _) => .ok ()

/-- What is answered to an end of the factory or the run. A result stays as it is but for its time; a failure becomes
a result of the executor. -/
inductive Answers (elapsed : Nat) : Except Failure RunResult → RunResult → Prop where
  | classified (c : FailureClass) (message : Text) (hint : Option Text) :
      Answers elapsed (.error (.classified c message hint))
        { success := false
          output := none
          error := .text (if message = "" then "Execution failed" else message)
          runtime := x.runtime
          elapsed := some elapsed
          hint := hint
          results := none }
  | unexpected (kind : ErrorKind) (text : Text) :
      Answers elapsed (.error (.unexpected kind text))
        { success := false
          output := none
          error := .text (if text = "" then "Execution failed" else text)
          runtime := x.runtime
          elapsed := some elapsed
          hint := none
          results := none }
  | result (r : RunResult) : Answers elapsed (.ok r) { r with elapsed := some elapsed }

/-- The end of a call, from what its parts come to. -/
def conclude (elapsed : Nat) (worked : Except Failure RunResult) (disposed : Except Failure Unit) :
    Except Failure RunResult :=
  match disposalEnd disposed with
  | .ok () => (x.answerOf worked).map (·.timed elapsed)
  | .error f => .error f

variable {x code options k}

/-- A call that is not answered early ends as its parts do. -/
theorem ending_execute_parts {elapsed : Nat} {j : Journal σ} (hInput : x.hasInput code options = true)
    (hNone : ending (x.preflight code options) j = (.ok none, k)) :
    (ending (x.execute elapsed code options) j).1 =
      x.conclude elapsed (x.worked code options k) (x.disposed code options k) := by
  rw [ending_execute_attempted hInput hNone, worked, disposed]
  rcases hBuild : ending x.build (k.noted .build) with ⟨e | f, l⟩
  · rw [ending_attempt_unbuilt hBuild]
    rfl
  · have hRelease := x.ending_release f (x.ran f code options l)
    rw [ending_attempt_built hBuild, hRelease, conclude]
    dsimp only
    cases disposalEnd (ending f.dispose ((x.ran f code options l).noted .dispose)).1 <;> rfl

/-- A disposal that is no shutdown is as good as one that succeeds. -/
theorem disposalEnd_of_not_shutdown {r : Except Failure Unit} (hr : ¬Job.IsShutdown r) :
    disposalEnd r = .ok () := by
  cases r with
  | ok u => rfl
  | error f =>
      refine if_pos ?_
      rw [← Bool.not_eq_false]
      exact fun hShutdown => hr ⟨f, rfl, hShutdown⟩

theorem disposalEnd_of_shutdown {f : Failure} (hShutdown : f.IsShutdown) :
    disposalEnd (.error f) = .error f :=
  if_neg (ne_true_of_eq_false hShutdown)

/-- A text, or another one where it is empty, in the words of an answer. -/
theorem orElseText_eq (s fallback : Text) : orElseText s fallback = if s = "" then fallback else s := by
  cases s <;> simp [orElseText]

variable (x) in
/-- An end is answered with a result exactly if it is no shutdown, and with one result only. -/
theorem answerOf_timed_eq_ok_iff {elapsed : Nat} {ended : Except Failure RunResult} {r : RunResult} :
    (x.answerOf ended).map (·.timed elapsed) = .ok r ↔ x.Answers elapsed ended r := by
  constructor
  · intro hAnswer
    cases ended with
    | ok result =>
        cases hAnswer
        exact .result result
    | error f =>
        cases f with
        | classified c message hint =>
            cases hAnswer
            rw [orElseText_eq]
            exact .classified c message hint
        | unexpected kind text =>
            cases hAnswer
            rw [orElseText_eq]
            exact .unexpected kind text
        | shutdown name text => cases hAnswer
  · intro hAnswers
    cases hAnswers with
    | classified c message hint =>
        rw [← defaultFailure, ← orElseText_eq]
        rfl
    | unexpected kind text =>
        rw [← defaultFailure, ← orElseText_eq]
        rfl
    | result r => rfl

variable (x) in
theorem answerOf_timed_eq_error_iff {elapsed : Nat} {ended : Except Failure RunResult} {f : Failure} :
    (x.answerOf ended).map (·.timed elapsed) = .error f ↔ f.IsShutdown ∧ ended = .error f := by
  cases ended with
  | ok result => exact iff_of_false nofun nofun
  | error g =>
      cases g with
      | shutdown name text =>
          constructor
          · intro hSame
            cases hSame
            exact ⟨rfl, rfl⟩
          · rintro ⟨_, hSame⟩
            cases hSame
            rfl
      | _ =>
          refine iff_of_false nofun ?_
          rintro ⟨hShutdown, hSame⟩
          cases hSame
          cases hShutdown

variable (x) in
theorem conclude_eq_ok_iff {elapsed : Nat} {worked : Except Failure RunResult} {disposed : Except Failure Unit}
    {r : RunResult} :
    x.conclude elapsed worked disposed = .ok r ↔ ¬Job.IsShutdown disposed ∧ x.Answers elapsed worked r := by
  unfold conclude
  by_cases hShutdown : Job.IsShutdown disposed
  · obtain ⟨f, rfl, hFailure⟩ := hShutdown
    rw [disposalEnd_of_shutdown hFailure]
    exact iff_of_false nofun fun h => h.1 ⟨f, rfl, hFailure⟩
  · rw [disposalEnd_of_not_shutdown hShutdown]
    exact (answerOf_timed_eq_ok_iff x).trans ⟨fun h => ⟨hShutdown, h⟩, fun h => h.2⟩

variable (x) in
/-- The shutdown of a disposal takes the place of any other. -/
theorem conclude_eq_error_iff {elapsed : Nat} {worked : Except Failure RunResult}
    {disposed : Except Failure Unit} {f : Failure} :
    x.conclude elapsed worked disposed = .error f ↔
      f.IsShutdown ∧ (disposed = .error f ∨ ¬Job.IsShutdown disposed ∧ worked = .error f) := by
  unfold conclude
  by_cases hShutdown : Job.IsShutdown disposed
  · obtain ⟨g, rfl, hFailure⟩ := hShutdown
    rw [disposalEnd_of_shutdown hFailure]
    constructor
    · intro hSame
      cases hSame
      exact ⟨hFailure, .inl rfl⟩
    · rintro ⟨_, hSame | ⟨hOther, _⟩⟩
      · exact congrArg _ (Except.error.inj hSame)
      · exact absurd ⟨g, rfl, hFailure⟩ hOther
  · rw [disposalEnd_of_not_shutdown hShutdown]
    refine (answerOf_timed_eq_error_iff x).trans (and_congr_right fun hFailure => ?_)
    constructor
    · exact fun hSame => .inr ⟨hShutdown, hSame⟩
    · rintro (hSame | ⟨_, hSame⟩)
      · exact absurd ⟨f, hSame, hFailure⟩ hShutdown
      · exact hSame

/-- A call without input is turned down, and nothing is done for it. Any other call that is not answered early is
answered with what its factory or its run comes to, and ends without an answer exactly if one of its parts is a
shutdown. A disposal that fails in any other way makes no difference. -/
theorem execute_answers (x : Executor σ) (elapsed : Nat) (code : Option Text) (options : Options)
    (j : Journal σ) :
    (x.hasInput code options = false → ending (x.execute elapsed code options) j =
      (.ok { success := false, output := none, error := .text "No code provided", runtime := x.runtime }, j)) ∧
    ∀ k, x.hasInput code options = true → ending (x.preflight code options) j = (.ok none, k) →
      let worked := x.worked code options k
      let disposed := x.disposed code options k
      let answer := (ending (x.execute elapsed code options) j).1
      (∀ r, answer = .ok r ↔ ¬Job.IsShutdown disposed ∧ x.Answers elapsed worked r) ∧
      (∀ f, answer = .error f ↔
        f.IsShutdown ∧ (disposed = .error f ∨ ¬Job.IsShutdown disposed ∧ worked = .error f)) ∧
      ((∃ f, answer = .error f) ↔ Job.IsShutdown worked ∨ Job.IsShutdown disposed) := by
  refine ⟨fun hInput => ending_execute_rejected hInput j, ?_⟩
  intro k hInput hNone worked disposed answer
  have hAnswer : answer = x.conclude elapsed worked disposed := ending_execute_parts hInput hNone
  rw [hAnswer]
  refine ⟨fun r => conclude_eq_ok_iff x, fun f => conclude_eq_error_iff x, ?_⟩
  constructor
  · rintro ⟨f, hError⟩
    obtain ⟨hFailure, hDisposed | ⟨_, hWorked⟩⟩ := (conclude_eq_error_iff x).mp hError
    · exact .inr ⟨f, hDisposed, hFailure⟩
    · exact .inl ⟨f, hWorked, hFailure⟩
  · intro hShutdown
    by_cases hDisposed : Job.IsShutdown disposed
    · obtain ⟨f, hSame, hFailure⟩ := hDisposed
      exact ⟨f, (conclude_eq_error_iff x).mpr ⟨hFailure, .inl hSame⟩⟩
    · obtain ⟨f, hSame, hFailure⟩ := hShutdown.resolve_right hDisposed
      exact ⟨f, (conclude_eq_error_iff x).mpr ⟨hFailure, .inr ⟨hDisposed, hSame⟩⟩⟩

/-- An engine that stops its snippet for a reason, and cannot be disposed of. -/
def stubbornEngine : EngineScript where
  answer := .error (.classified .evaluation "" (some "Try less."))
  onDispose := some (.unexpected .value "busy")

/-- A blank snippet is turned down. Another is answered with the reason for which it was stopped, although the engine
cannot be disposed of. -/
theorem execute_answers_stubborn :
    let x : Executor Unit := plain stubbornEngine.build
    ending (x.execute 7 (some " ") []) ⟨(), [], []⟩ =
      (.ok { success := false, output := none, error := .text "No code provided", runtime := "unknown" },
        ⟨(), [], []⟩) ∧
    (ending (x.execute 7 (some "x") []) ⟨(), [], []⟩).1 =
      .ok
        { success := false
          output := none
          error := .text "Execution failed"
          runtime := "unknown"
          elapsed := some 7
          hint := some "Try less." } := by
  intro x
  refine ⟨(execute_answers x 7 (some " ") [] ⟨(), [], []⟩).1 (by decide), ?_⟩
  have hAnswer := ((execute_answers x 7 (some "x") [] ⟨(), [], []⟩).2 ⟨(), [], []⟩ (by decide) rfl).1
  refine (hAnswer _).mpr ⟨?_, .classified .evaluation "" (some "Try less.")⟩
  rintro ⟨f, hSame, hShutdown⟩
  cases hSame
  cases hShutdown

end Executor

end SnippetService
