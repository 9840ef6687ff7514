import SnippetService.Proofs.Execution.Attempt
import SnippetService.Snippet.Engine
import SnippetService.Wasm.Engine
/-!
The life of an engine inside one call. The coordinator asks for an engine at most once, runs it at most
once, and disposes of every engine that it was given, exactly once and last, whatever the factory, the run
and the disposal come to.
-/
namespace SnippetService

open Job

variable {σ ρ : Type}

/-- An engine whose acts are recorded by its coordinator alone. -/
structure Engine.Quiet (e : Engine σ) : Prop where
  execute : ∀ code input, Job.Quiet (e.execute code input)
  dispose : Job.Quiet e.dispose

/-- A way to fresh engines, which may fail and may do anything to the host. The record of acts belongs to
the coordinator, so neither the factory nor its engines write in it. -/
structure Factory (σ : Type) where
  build : Job σ (Engine σ)
  quiet : Job.Quiet build
  engine_quiet : ∀ {j : Journal σ} {e : Engine σ}, (ending build j).1 = .ok e → e.Quiet

/-- One call of a coordinator, and the factory that serves it. -/
structure Call (σ : Type) where
  code : Option Text
  options : Options
  /-- What the clock shows in the end. -/
  elapsed : Nat
  factory : Factory σ

/-- The coordinators that work with any engine. -/
inductive Coordinator where
  | scripts
  | modules
  | plain
  | bare

namespace Coordinator

/-- A coordinator over a factory. -/
def executor (k : Coordinator) (build : Job σ (Engine σ)) : Executor σ :=
  match k with
  | scripts => Snippet.executor build
  | modules => Wasm.executor build
  | plain => Executor.plain build
  | bare => Executor.bare build

/-- Whether the request of a call passes the check of its input. -/
def accepts (k : Coordinator) (c : Call σ) : Bool :=
  (k.executor c.factory.build).hasInput c.code c.options

def call (k : Coordinator) (c : Call σ) : Job σ RunResult :=
  (k.executor c.factory.build).execute c.elapsed c.code c.options

/-- The journal after calls one after another; a call that raises does not keep the next from being
made. -/
def serve (k : Coordinator) : List (Call σ) → Journal σ → Journal σ
  | [], j => j
  | c :: rest, j => k.serve rest (after (k.call c) j)

end Coordinator

/-- Whether the factory of a call returns an engine when it is asked in the course of the call. -/
def Call.builds (c : Call σ) (j : Journal σ) : Bool :=
  (ending c.factory.build (j.noted .build)).1.isOk

/-- The courses that a call can take. What is accepted asks for one engine; an engine that is had is
disposed of once and last, after the run if it came to one. -/
inductive Course : (accepted built : Bool) → List EngineEvent → Prop where
  | rejected (built : Bool) : Course false built []
  | unbuilt : Course true false [.build]
  | unused : Course true true [.build, .dispose]
  | used (code : Option Text) (input : EngineInput) :
      Course true true [.build, .execute code input, .dispose]

def EngineEvent.isDispose : EngineEvent → Bool
  | dispose => true
  | _ => false

namespace Coordinator

/-- Traces that follow calls made one after another, each from the journal that those before it leave. -/
inductive Traced (k : Coordinator) : List (Call σ) → Journal σ → List (List EngineEvent) → Prop where
  | nil (j : Journal σ) : k.Traced [] j []
  | cons {c : Call σ} {rest : List (Call σ)} {j : Journal σ} {trace : List EngineEvent}
      {traces : List (List EngineEvent)} (course : Course (k.accepts c) (c.builds j) trace)
      (tail : k.Traced rest (after (k.call c) j) traces) :
      k.Traced (c :: rest) j (trace :: traces)

end Coordinator

namespace Engine

/-- Running code on an engine is recorded once, also when the run raises. -/
theorem Quiet.perform_events {e : Engine σ} (hQuiet : e.Quiet) (code : Option Text)
    (input : EngineInput) (j : Journal σ) :
    (after (e.perform code input) j).events = j.events ++ [.execute code input] := by
  have hRun := hQuiet.execute code input (j.noted (.execute code input))
  rw [after, ending_perform]
  exact hRun

end Engine

namespace Executor

/-- An executor that runs the engine that it is given at most once. -/
def RunsOnce (x : Executor σ) : Prop :=
  ∀ {e : Engine σ}, e.Quiet → ∀ code options j,
    (after (x.run e code options) j).events = j.events ∨
    ∃ c i, (after (x.run e code options) j).events = j.events ++ [.execute c i]

/-- An executor that answers nothing without an engine and runs the engine that it is given at most
once. -/
structure Frugal (x : Executor σ) : Prop where
  preflight : ∀ code options, x.preflight code options = pure none
  run : x.RunsOnce

/-- Disposing of an engine is recorded once, also when the disposal raises. -/
theorem release_events (x : Executor σ) {e : Engine σ} (hQuiet : e.Quiet) (j : Journal σ) :
    (after (x.release e) j).events = j.events ++ [.dispose] := by
  have hDispose := hQuiet.dispose (j.noted .dispose)
  rw [after, ending_release]
  exact hDispose

theorem attempt_events_built {x : Executor σ} {code : Option Text} {options : Options}
    {j k : Journal σ} {e : Engine σ} (hQuiet : e.Quiet)
    (hBuild : ending x.build (j.noted .build) = (.ok e, k)) :
    (after (x.attempt code options) j).events =
      (after (x.run e code options) k).events ++ [.dispose] := by
  have hRelease := x.release_events hQuiet (x.ran e code options k)
  rw [after, ending_attempt_built hBuild]
  rcases hEnd : ending (x.release e) (x.ran e code options k) with ⟨r, l⟩
  rw [after, hEnd] at hRelease
  cases r <;> exact hRelease

/-- What an attempt records is one of the courses in which an engine is asked for. -/
theorem RunsOnce.attempt_course {x : Executor σ} (hRuns : x.RunsOnce) (hBuild : Job.Quiet x.build)
    (hEngine : ∀ {j : Journal σ} {e : Engine σ}, (ending x.build j).1 = .ok e → e.Quiet)
    (code : Option Text) (options : Options) (j : Journal σ) :
    ∃ trace, (after (x.attempt code options) j).events = j.events ++ trace ∧
      Course true (ending x.build (j.noted .build)).1.isOk trace := by
  have hRecord := hBuild (j.noted .build)
  rcases hResult : ending x.build (j.noted .build) with ⟨r, k⟩
  rw [after, hResult, Journal.noted_events] at hRecord
  cases r with
  | error f =>
      refine ⟨[.build], ?_, .unbuilt⟩
      rw [after, ending_attempt_unbuilt hResult]
      exact hRecord
  | ok e =>
      have hQuiet : e.Quiet := hEngine (by rw [hResult])
      have hRun := hRuns hQuiet code options k
      rw [attempt_events_built hQuiet hResult]
      rcases hRun with hRun | ⟨c, i, hRun⟩
      · exact ⟨[.build, .dispose], by rw [hRun, hRecord]; simp, .unused⟩
      · exact ⟨[.build, .execute c i, .dispose], by rw [hRun, hRecord]; simp, .used c i⟩

/-- What a call of a frugal executor records is one of the four courses. -/
theorem Frugal.execute_course {x : Executor σ} (hFrugal : x.Frugal) (hBuild : Job.Quiet x.build)
    (hEngine : ∀ {j : Journal σ} {e : Engine σ}, (ending x.build j).1 = .ok e → e.Quiet)
    (elapsed : Nat) (code : Option Text) (options : Options) (j : Journal σ) :
    ∃ trace, (after (x.execute elapsed code options) j).events = j.events ++ trace ∧
      Course (x.hasInput code options) (ending x.build (j.noted .build)).1.isOk trace := by
  cases hInput : x.hasInput code options with
  | false =>
      refine ⟨[], ?_, .rejected _⟩
      rw [after, ending_execute_rejected hInput, List.append_nil]
  | true =>
      have hNone : ending (x.preflight code options) j = (.ok none, j) := by
        rw [hFrugal.preflight, ending_pure]
      rw [after, ending_execute_attempted hInput hNone]
      exact RunsOnce.attempt_course hFrugal.run hBuild hEngine code options j

end Executor

namespace Coordinator

/-- What a coordinator asks of a request has nothing to do with its factory. -/
theorem hasInput_executor (k : Coordinator) (build : Job σ (Engine σ)) (other : Job ρ (Engine ρ)) :
    (k.executor build).hasInput = (k.executor other).hasInput := by
  cases k <;> rfl

theorem executor_build (k : Coordinator) (build : Job σ (Engine σ)) :
    (k.executor build).build = build := by
  cases k <;> rfl

/-- Every coordinator hands an engine its code at most once: where the input of the engine cannot be had,
or nobody has said how to run, not at all. -/
theorem frugal (k : Coordinator) (build : Job σ (Engine σ)) : (k.executor build).Frugal where
  preflight code options := by cases k <;> rfl
  run := by
    intro e hQuiet code options j
    cases k with
    | scripts => exact .inr ⟨_, _, hQuiet.perform_events code .nothing j⟩
    | plain => exact .inr ⟨_, _, hQuiet.perform_events code .nothing j⟩
    | bare => exact .inl rfl
    | modules =>
        simp only [executor, Wasm.executor, after, ending_bind, ending_ofExcept]
        cases (Wasm.encodedOption options).mapM Wasm.decodeOption with
        | error f => exact .inl rfl
        | ok bytes => exact .inr ⟨_, _, hQuiet.perform_events code _ j⟩

/-- What one call records is one of the four courses. -/
theorem call_course (k : Coordinator) (c : Call σ) (j : Journal σ) :
    ∃ trace, (after (k.call c) j).events = j.events ++ trace ∧
      Course (k.accepts c) (c.builds j) trace := by
  have hBuild := k.executor_build c.factory.build
  have h := (k.frugal c.factory.build).execute_course (by rw [hBuild]; exact c.factory.quiet)
    (fun he => c.factory.engine_quiet (by rwa [hBuild] at he)) c.elapsed c.code c.options j
  rwa [hBuild] at h

end Coordinator

namespace Coordinator

end Coordinator

end SnippetService
