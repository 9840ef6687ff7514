import SnippetService.Execution.Journal
import SnippetService.Execution.Executor
/-!
Prepared engines, which answer with a given result or failure.
-/
namespace SnippetService

/-- What a prepared engine does. -/
structure EngineScript where
  onBuild : Option Failure := none
  answer : Except Failure RunResult
  onDispose : Option Failure := none

namespace EngineScript

/-- The result of an engine that was told nothing. -/
def mockResult : RunResult where
  success := true
  output := some "Mock output"
  error := .null
  runtime := "Mock Engine"

variable {σ : Type}

/-- Fail if told to. -/
def perform (f : Option Failure) : Job σ Unit :=
  match f with
  | none => return
  | some f => Job.fail f

def engine (s : EngineScript) : Engine σ where
  execute _ _ := Job.ofExcept s.answer
  dispose := perform s.onDispose

/-- A prepared engine as a fresh one. -/
def build (s : EngineScript) : Job σ (Engine σ) := do
  perform s.onBuild
  return s.engine

end EngineScript

end SnippetService
