import SnippetService.Proofs.Execution.Job
/-!
What one call of an executor comes to, in terms of what the factory, the run and the disposal come to. Each
part has one lemma that gives its end and the journal that it leaves.
-/
namespace SnippetService

open Job

variable {σ : Type}

theorem Engine.ending_perform (e : Engine σ) (code : Option Text) (input : EngineInput) (j : Journal σ) :
    ending (e.perform code input) j = ending (e.execute code input) (j.noted (.execute code input)) := by
  simp [perform]

namespace Executor

/-- What a failure is answered with; a shutdown is answered with nothing. -/
def answerTo (x : Executor σ) (f : Failure) : Except Failure RunResult :=
  match f with
  | .classified _ message hint => .ok (.failure x.runtime (orElseText message defaultFailure) hint)
  | .unexpected _ text => .ok (.failure x.runtime (orElseText text defaultFailure) none)
  | .shutdown _ _ => .error f

/-- The end of a part, with a failure replaced by what it is answered with. -/
def answerOf (x : Executor σ) : Except Failure RunResult → Except Failure RunResult
  | .ok r => .ok r
  | .error f => x.answerTo f

/-- What is logged of a failure. -/
def failureNotes (x : Executor σ) : Failure → List LogRecord
  | .classified _ message _ =>
    [⟨.info, .executor, x.runtime ++ " execution failed: " ++ message⟩]
  | .unexpected _ _ => [⟨.error, .executor, "Unexpected error in " ++ x.runtime ++ " executor"⟩]
  | .shutdown _ _ => []

/-- What is logged of the end of a part. -/
def endNotes (x : Executor σ) : Except Failure RunResult → List LogRecord
  | .ok _ => []
  | .error f => x.failureNotes f

/-- What is logged of the end of a disposal. -/
def disposalNotes (x : Executor σ) : Except Failure Unit → List LogRecord
  | .ok () => []
  | .error f =>
    if f.isAnswerable then [⟨.error, .executor, "Failed to dispose " ++ x.runtime ++ " engine"⟩]
    else []

/-- The end of a disposal as the caller sees it. -/
def disposalEnd : Except Failure Unit → Except Failure Unit
  | .ok () => .ok ()
  | .error f => if f.isAnswerable then .ok () else .error f

theorem ending_settle (x : Executor σ) (f : Failure) (j : Journal σ) :
    ending (x.settle f) j = (.ok (x.answerTo f), j.logged (x.failureNotes f)) := by
  cases f with
  | classified c message hint => rfl
  | unexpected kind text => rfl
  | shutdown name text => simp [settle, answerTo, failureNotes, Journal.logged]

theorem ending_settled (x : Executor σ) (r : Except Failure RunResult) (j : Journal σ) :
    ending (x.settled r) j = (.ok (x.answerOf r), j.logged (x.endNotes r)) := by
  cases r with
  | ok r => simp [settled, answerOf, endNotes, Journal.logged]
  | error f => exact ending_settle x f j

theorem ending_release (x : Executor σ) (e : Engine σ) (j : Journal σ) :
    ending (x.release e) j =
      (disposalEnd (ending e.dispose (j.noted .dispose)).1,
        (after e.dispose (j.noted .dispose)).logged
          (x.disposalNotes (ending e.dispose (j.noted .dispose)).1)) := by
  simp only [release, ending_bind, ending_tell, ending_outcome]
  cases (ending e.dispose (j.noted .dispose)).1 with
  | ok u => cases u; simp [disposalEnd, disposalNotes, Journal.logged]
  | error f => cases h : f.isAnswerable <;> simp [disposalEnd, disposalNotes, h, Journal.logged]

theorem ending_attempt_unbuilt {x : Executor σ} {code : Option Text} {options : Options}
    {j k : Journal σ} {f : Failure} (hBuild : ending x.build (j.noted .build) = (.error f, k)) :
    ending (x.attempt code options) j = (.ok (x.answerTo f), k.logged (x.failureNotes f)) := by
  simp [attempt, after, hBuild, ending_settle]

/-- The journal in which the engine of a call is disposed of: that of the run, with the run's failure
logged. -/
def ran (x : Executor σ) (e : Engine σ) (code : Option Text) (options : Options)
    (k : Journal σ) : Journal σ :=
  (after (x.run e code options) k).logged (x.endNotes (ending (x.run e code options) k).1)

theorem ending_attempt_built {x : Executor σ} {code : Option Text} {options : Options}
    {j k : Journal σ} {e : Engine σ} (hBuild : ending x.build (j.noted .build) = (.ok e, k)) :
    ending (x.attempt code options) j =
      match ending (x.release e) (x.ran e code options k) with
      | (.ok (), l) => (.ok (x.answerOf (ending (x.run e code options) k).1), l)
      | (.error f, l) => (.error f, l) := by
  simp only [attempt, ran, ending_bind, ending_tell, ending_outcome, after, hBuild, ending_settled]
  rcases ending (x.release e) _ with ⟨_ | _, l⟩ <;> rfl

/-- Whatever the answer is, the host is left as the disposal leaves it. -/
theorem host_attempt_built {x : Executor σ} {code : Option Text} {options : Options}
    {j k : Journal σ} {e : Engine σ} (hBuild : ending x.build (j.noted .build) = (.ok e, k)) :
    (after (x.attempt code options) j).host =
      (after e.dispose ((x.ran e code options k).noted .dispose)).host := by
  have hRelease := x.ending_release e (x.ran e code options k)
  rw [after, ending_attempt_built hBuild]
  rcases hEnd : ending (x.release e) (x.ran e code options k) with ⟨r, l⟩
  rw [hEnd] at hRelease
  have hHost := congrArg (fun p => p.2.host) hRelease
  cases r <;> exact hHost

theorem ending_execute_rejected {x : Executor σ} {elapsed : Nat} {code : Option Text}
    {options : Options} (hInput : x.hasInput code options = false) (j : Journal σ) :
    ending (x.execute elapsed code options) j = (.ok (.failure x.runtime noCodeError none), j) := by
  simp [execute, hInput]

theorem ending_execute_early {x : Executor σ} {elapsed : Nat} {code : Option Text}
    {options : Options} {j k : Journal σ} {early : RunResult}
    (hInput : x.hasInput code options = true)
    (hEarly : ending (x.preflight code options) j = (.ok (some early), k)) :
    ending (x.execute elapsed code options) j = (.ok (early.timed elapsed), k) := by
  simp [execute, hInput, hEarly]

/-- The end of an attempt as the end of the call, with the time that the clock shows. -/
def timedEnd (elapsed : Nat) : Except Failure (Except Failure RunResult) → Except Failure RunResult
  | .ok r => r.map (·.timed elapsed)
  | .error f => .error f

theorem ending_execute_attempted {x : Executor σ} {elapsed : Nat} {code : Option Text}
    {options : Options} {j k : Journal σ} (hInput : x.hasInput code options = true)
    (hNone : ending (x.preflight code options) j = (.ok none, k)) :
    ending (x.execute elapsed code options) j =
      (timedEnd elapsed (ending (x.attempt code options) k).1, after (x.attempt code options) k) := by
  simp only [execute, hInput, ending_bind, hNone, after, Bool.not_true, Bool.false_eq_true, ↓reduceIte]
  rcases ending (x.attempt code options) k with ⟨r, l⟩
  cases r with
  | error f => rfl
  | ok answer => cases answer <;> simp [timedEnd, Except.map]

end Executor

end SnippetService
