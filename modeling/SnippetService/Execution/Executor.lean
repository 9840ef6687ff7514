import SnippetService.Execution.Journal
import SnippetService.Execution.RunResult
import SnippetService.Text.Blank
/-!
Executors. An executor checks a request, asks for an engine, runs the code on it once, and disposes of
the engine however the run ends. Whatever fails becomes a failed result; only a shutdown passes.
-/
namespace SnippetService

/-- The options of a call, by name. -/
abbrev Options := List (String × Datum)

/-- One execution context. -/
structure Engine (σ : Type) where
  execute : Option Text → EngineInput → Job σ RunResult
  dispose : Job σ Unit

namespace Engine

variable {σ : Type}

/-- Run code on an engine, on record. -/
def perform (e : Engine σ) (code : Option Text) (input : EngineInput) : Job σ RunResult := do
  Job.tell (.execute code input)
  e.execute code input

end Engine

/-- How the requests of a language are executed. -/
structure Executor (σ : Type) where
  /-- The label of the results that the executor itself makes. -/
  runtime : String := "unknown"
  language : String := "unknown"
  /-- Whether a request carries anything to run. -/
  hasInput : Option Text → Options → Bool
  /-- The answer to a request that needs no engine. -/
  preflight : Option Text → Options → Job σ (Option RunResult) := fun _ _ => return none
  /-- A fresh engine. -/
  build : Job σ (Engine σ)
  run : Engine σ → Option Text → Options → Job σ RunResult

namespace Executor

variable {σ : Type}

def noCodeError : String := "No code provided"

def defaultFailure : String := "Execution failed"

/-- Whether there is code that is not blank. -/
def hasCode (code : Option Text) : Bool :=
  match code with
  | some s => !isBlankText s
  | none => false

/-- Record a failure and make the answer of it. -/
def settle (x : Executor σ) (f : Failure) : Job σ (Except Failure RunResult) := do
  match f with
  | .classified _ message hint =>
    Job.log .info .executor (x.runtime ++ " execution failed: " ++ message)
    return .ok (.failure x.runtime (orElseText message defaultFailure) hint)
  | .unexpected _ text =>
    Job.log .error .executor ("Unexpected error in " ++ x.runtime ++ " executor")
    return .ok (.failure x.runtime (orElseText text defaultFailure) none)
  | .shutdown _ _ => return .error f

/-- Record and answer the end of a part. -/
def settled (x : Executor σ) (ended : Except Failure RunResult) :
    Job σ (Except Failure RunResult) := do
  match ended with
  | .ok r => return .ok r
  | .error f => x.settle f

/-- Dispose of an engine. A failure there is recorded and changes nothing else. -/
def release (x : Executor σ) (e : Engine σ) : Job σ Unit := do
  Job.tell .dispose
  match ← Job.outcome e.dispose with
  | .ok () => return
  | .error f =>
    if f.isAnswerable then
      Job.log .error .executor ("Failed to dispose " ++ x.runtime ++ " engine")
    else Job.fail f

/-- Run code on a fresh engine. -/
def attempt (x : Executor σ) (code : Option Text) (options : Options) :
    Job σ (Except Failure RunResult) := do
  Job.tell .build
  match ← Job.outcome x.build with
  | .error f => x.settle f
  | .ok e =>
    let answer ← x.settled (← Job.outcome (x.run e code options))
    x.release e
    return answer

/-- Execute a request; `elapsed` is what the clock shows at its end. -/
def execute (x : Executor σ) (elapsed : Nat) (code : Option Text) (options : Options) :
    Job σ RunResult := do
  if !x.hasInput code options then return .failure x.runtime noCodeError none
  else
    match ← x.preflight code options with
    | some early => return early.timed elapsed
    | none =>
      let r ← Job.ofExcept (← x.attempt code options)
      return r.timed elapsed

/-- An executor that hands the code to the engine and nothing else. -/
def plain (build : Job σ (Engine σ)) : Executor σ where
  hasInput code _ := hasCode code
  build := build
  run e code _ := e.perform code .nothing

/-- An executor that has not been told how to run. -/
def bare (build : Job σ (Engine σ)) : Executor σ where
  hasInput code _ := hasCode code
  build := build
  run _ _ _ := Job.fail (.unexpected .notImplemented "")

end Executor

end SnippetService
