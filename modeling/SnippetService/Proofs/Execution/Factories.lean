import SnippetService.Proofs.Execution.Composed
import SnippetService.Service.Backend
/-!
The factories of the service. None of its engines writes in the record of acts: what they do to their hosts, and
what they log, is beside it. So what holds for every factory holds for the engines that are in use, and for the
requests that the backends serve with them.
-/
namespace SnippetService

open Job

variable {σ κ ρ α : Type}

/-- A factory that gives the same engine to everybody. -/
def Factory.always (e : Engine σ) (hQuiet : e.Quiet) : Factory σ where
  build := pure e
  quiet := .pure e
  engine_quiet := by
    intro j built hBuilt
    rw [ending_pure] at hBuilt
    cases hBuilt
    exact hQuiet

/-- A factory that gives no engine to anybody. -/
def Factory.failing (f : Failure) : Factory σ where
  build := Job.fail f
  quiet := (Composed.fail f).quiet
  engine_quiet := nofun

namespace Snippet

theorem composed_evaluate (access : ContextAccess κ) (purpose : EvalPurpose) (text : String) :
    Job.Composed (evaluate access purpose text) :=
  Composed.host.bind fun _ => (Composed.setHost _).bind fun _ => .ofExcept _

theorem composed_readConsole (access : ContextAccess κ) : Job.Composed (readConsole access) := by
  refine (composed_evaluate access _ _).outcome.bind fun r => ?_
  cases r with
  | ok answer => exact .ofExcept _
  | error f =>
      dsimp only
      split
      · exact (Composed.log _ _ _).bind fun _ => .pure _
      · exact .fail f

theorem composed_outcomeOf (access : ContextAccess κ) (code : Text) :
    Job.Composed (outcomeOf access code) := by
  refine (composed_evaluate access _ _).outcome.bind fun r => ?_
  cases r with
  | ok answer => exact .ofExcept _
  | error f =>
      dsimp only
      split
      · exact (Composed.log _ _ _).bind fun _ => (composed_readConsole access).bind fun _ =>
          (Composed.ofExcept _).bind fun _ => .pure _
      · exact .fail f

theorem composed_execute (access : ContextAccess κ) (code : Option Text) :
    Job.Composed (execute access code) := by
  refine Composed.host.bind fun s => ?_
  dsimp only
  split
  · exact .fail _
  · refine (composed_evaluate access _ _).bind fun _ => (Composed.log _ _ _).bind fun _ =>
      (composed_outcomeOf access _).bind fun outcome => ?_
    split
    · exact .ofExcept _
    · exact .fail _

/-- The engine is composed over any context, whatever the snippet makes of it. -/
theorem composed_engine (access : ContextAccess κ) : (engine access).Composed where
  execute code _ := composed_execute access code
  dispose := by
    dsimp only [engine, dispose]
    exact .modifyHost _

end Snippet

namespace Wasm

theorem composed_onMachine (m : Machine) (act : Act α) : Job.Composed (onMachine m act) :=
  Composed.host.bind fun _ => (Composed.setHost _).bind fun _ => .pure _

theorem composed_initially (trapText : Trap → String) (m : Machine) (act : Act Unit) :
    Job.Composed (initially trapText m act) := by
  refine (composed_onMachine m act).bind fun p => ?_
  dsimp only
  split
  · exact .pure _
  · exact .fail _

theorem composed_reach (e : Stage) : Job.Composed (reach e) := .modifyHost _

theorem composed_callFunction (kind : FailureClass) (fixture : Fixture) (m : Machine) (c : Callee)
    (args : List Value) : Job.Composed (callFunction kind fixture m c args) := by
  refine Composed.host.bind fun s => (composed_reach _).bind fun _ => (composed_onMachine _ _).bind fun p => ?_
  dsimp only
  split
  · exact .pure _
  · split
    · exact (Composed.modifyHost _).bind fun _ => .fail _
    · exact .fail _

theorem composed_timed {job : EngineJob α} (hJob : Job.Composed job) : Job.Composed (timed job) :=
  (composed_reach _).bind fun _ => hJob.outcome.bind fun _ => (composed_reach _).bind fun _ => .ofExcept _

theorem composed_instantiate (l : Linked) : Job.Composed (instantiate l) := by
  refine Composed.host.bind fun s => ?_
  dsimp only
  split
  · exact .fail _
  · refine (composed_initially _ _ _).bind fun m => ?_
    split
    · exact .pure _
    · exact (composed_callFunction _ _ _ _ _).bind fun _ => .pure _

theorem composed_invoke (x : Instance) (c : Callee) (args : List Value) :
    Job.Composed (invoke x c args) :=
  (composed_callFunction _ _ _ _ _).bind fun _ => .pure _

theorem composed_invokePlain (x : Instance) (c : Callee) : Job.Composed (invokePlain x c) := by
  unfold invokePlain
  dsimp only
  split
  · exact composed_invoke x c []
  · exact .fail _

theorem composed_callNamed (x : Instance) (name : String) (c : Callee) (args : List Datum) :
    Job.Composed (callNamed x name c args) := by
  unfold callNamed
  dsimp only
  split
  · exact .fail _
  · exact (Composed.ofExcept _).bind fun _ => (composed_invoke x c _).bind fun _ =>
      (Composed.ofExcept _).bind fun _ => (Composed.log _ _ _).bind fun _ =>
        (Composed.ofExcept _).bind fun _ => .modifyHost _

theorem composed_enter (x : Instance) (args : List Datum) (e : EntryPoint) :
    Job.Composed (enter x args e) := by
  cases e with
  | named name c => exact composed_callNamed x name c args
  | start c => exact (composed_invokePlain x c).bind fun _ => .modifyHost _
  | main c =>
      exact (composed_invokePlain x c).bind fun _ => (Composed.ofExcept _).bind fun _ => .modifyHost _
  | listing =>
      rw [enter]
      exact .modifyHost _

theorem composed_execute (code : Option Text) (bytes : Option Bytes) (entryPoint : Option Text)
    (args : List Datum) : Job.Composed (execute code bytes entryPoint args) := by
  refine Composed.host.bind fun s => ?_
  split
  · exact .fail _
  · refine (Composed.ofExcept _).bind fun binary => (composed_reach _).bind fun _ => Composed.host.bind fun s => ?_
    dsimp only
    split
    · exact .fail _
    · exact (Composed.ofExcept _).bind fun host => (composed_instantiate _).bind fun x =>
        (composed_timed (composed_enter x args _)).bind fun _ => Composed.host.bind fun _ => .pure _

/-- The engine is composed, whatever it is given beside the code. -/
theorem composed_engine : engine.Composed where
  execute code input := by
    cases input with
    | binary bytes entryPoint args => exact composed_execute code bytes entryPoint args
    | nothing => exact composed_execute code none none []
  dispose := by
    dsimp only [engine, dispose]
    exact .modifyHost _

end Wasm

namespace Sandbox

theorem composed_onWorld (act : κ → Except Failure α × κ) : Job.Composed (onWorld act) :=
  Composed.host.bind fun _ => (Composed.setHost _).bind fun _ => .ofExcept _

theorem composed_execute (provider : Provider κ) (code : Option Text) :
    Job.Composed (execute provider code) := by
  refine Composed.host.bind fun s => ?_
  split
  · exact .fail _
  · exact (composed_onWorld _).bind fun _ => .pure _

theorem composed_dispose (provider : Provider κ) : Job.Composed (dispose provider) := by
  refine Composed.host.bind fun s => ?_
  split
  · exact (Composed.modifyHost _).bind fun _ => (composed_onWorld _).bind fun _ => .log _ _ _
  · exact .pure ()

theorem composed_engine (provider : Provider κ) : (engine provider).Composed where
  execute code _ := composed_execute provider code
  dispose := composed_dispose provider

theorem composed_build (provider : Option (Provider κ)) : Job.Composed (build provider) := by
  cases provider with
  | none => exact .fail _
  | some p => exact (composed_onWorld _).bind fun _ => (Composed.modifyHost _).bind fun _ => .pure _

/-- The factory of sessions, which gives the engine for the session that it has had. -/
def factory (provider : Option (Provider κ)) : Factory (Session κ) where
  build := build provider
  quiet := (composed_build provider).quiet
  engine_quiet := by
    intro j e hBuilt
    cases provider with
    | none => cases hBuilt
    | some p =>
        simp only [build, ending_bind] at hBuilt
        rcases hWorld : ending (onWorld p.create) j with ⟨f | u, k⟩
        · rw [hWorld] at hBuilt
          cases hBuilt
        · rw [hWorld] at hBuilt
          cases hBuilt
          exact (composed_engine p).quiet

end Sandbox

namespace Backend

/-- A request that is served on a host of its own takes one of the four courses. Without a host there is no engine. -/
theorem onFresh_course (k : Coordinator) (language : String) {e : Engine ρ} (hQuiet : e.Quiet)
    (host : Chance → Except Failure ρ) (t : Moment) (code : Option Text) (options : Options) (j : Journal σ) :
    ∃ trace, (after ((onFresh language (fun _ => k.executor) e host).execute t code options) j).events =
        j.events ++ trace ∧
      Course ((k.executor (return e)).hasInput code options) (host t.chance).isOk trace := by
  unfold onFresh
  dsimp only
  cases host t.chance with
  | error f =>
      rw [k.hasInput_executor (return e) (Job.fail f)]
      exact k.call_course ⟨code, options, t.elapsed, .failing f⟩ j
  | ok h =>
      obtain ⟨trace, hTrace, hCourse⟩ := k.call_course ⟨code, options, t.elapsed, .always e hQuiet⟩ (j.hosting h)
      refine ⟨trace, ?_, hCourse⟩
      rw [after, ending_within, Journal.hosting_events]
      exact hTrace

end Backend

end SnippetService
