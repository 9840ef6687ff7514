import SnippetService.Proofs.Sandbox.Accounting
import SnippetService.Proofs.Wasm.Working
import SnippetService.Snippet.Context
/-!
Use after release. An engine holds something from the start, a context, a store or a session, and gives it up when it
is disposed of for the first time. From then on it refuses to execute and has nothing to dispose of, whatever is asked
of it. What is done with the thing that is held is on record, so nothing is done behind the engine's back.
-/
namespace SnippetService

open Job

variable {σ α β : Type}

/-- One use of an engine. -/
inductive Use where
  | execute (code : Option Text) (input : EngineInput)
  | dispose

namespace Use

def isDispose : Use → Bool
  | execute _ _ => false
  | dispose => true

/-- A use as work on the engine. Disposing gives no result. -/
def job (e : Engine σ) : Use → Job σ (Option RunResult)
  | execute code input => some <$> e.execute code input
  | dispose => (fun _ => none) <$> e.dispose

/-- What a use comes to after the release: executing is refused, and disposing does nothing. -/
def late (refusal : Failure) : Use → Except Failure (Option RunResult)
  | execute _ _ => .error refusal
  | dispose => .ok none

end Use

/-- What an engine holds: whether it still does, and how often it was given up so far. -/
structure Holding (σ : Type) where
  isHeld : σ → Bool
  releases : σ → Nat

/-- Work that neither gives up nor gets back what is held. -/
def Holding.Spares (h : Holding σ) (job : Job σ α) : Prop :=
  ∀ j, h.isHeld (after job j).host = h.isHeld j.host ∧ h.releases (after job j).host = h.releases j.host

namespace Engine

/-- The uses of an engine one after another: what each comes to, and the journal that is left. A use that fails does
not keep the next from being made. -/
def serve (e : Engine σ) : List Use → Journal σ → List (Except Failure (Option RunResult)) × Journal σ
  | [], j => ([], j)
  | u :: rest, j =>
    let later := e.serve rest (after (u.job e) j)
    ((ending (u.job e) j).1 :: later.1, later.2)

/-- An engine that gives up what it holds when it is disposed of, and refuses to work without it. -/
structure GivesUp (e : Engine σ) (h : Holding σ) (refusal : Failure) : Prop where
  /-- To execute gives nothing up, however it ends. -/
  spares : ∀ code input j, h.isHeld j.host = true →
    h.isHeld (after (e.execute code input) j).host = true ∧
      h.releases (after (e.execute code input) j).host = h.releases j.host
  /-- To dispose gives it up once, however that ends. -/
  releases : ∀ j, h.isHeld j.host = true →
    h.isHeld (after e.dispose j).host = false ∧ h.releases (after e.dispose j).host = h.releases j.host + 1
  refuses : ∀ code input j, h.isHeld j.host = false → ending (e.execute code input) j = (.error refusal, j)
  rests : ∀ j, h.isHeld j.host = false → ending e.dispose j = (.ok (), j)

/-- On an engine in a journal, whatever it is used for: nothing is given up before it is disposed of for the first
time, and it is given up once then. From then on every use comes to nothing but its late answer, and leaves the
journal as it is. -/
def IsReleasedOnce (e : Engine σ) (h : Holding σ) (refusal : Failure) (j : Journal σ) : Prop :=
  ∀ before later : List Use, (∀ u ∈ before, u.isDispose = false) →
    let k := (e.serve before j).2
    let l := after e.dispose k
    h.releases k.host = 0 ∧ h.releases l.host = 1 ∧
    e.serve (before ++ .dispose :: later) j =
      ((e.serve before j).1 ++ (ending (Use.dispose.job e) k).1 :: later.map (Use.late refusal), l)

section

variable {e : Engine σ} {h : Holding σ} {refusal : Failure} {j : Journal σ}

theorem serve_append (first second : List Use) :
    e.serve (first ++ second) j =
      ((e.serve first j).1 ++ (e.serve second (e.serve first j).2).1, (e.serve second (e.serve first j).2).2) := by
  induction first generalizing j with
  | nil => rfl
  | cons u rest ih => simp only [List.cons_append, serve, ih]

namespace GivesUp

/-- A use that does not dispose of the engine leaves it what it holds. -/
theorem serve_before (hGivesUp : e.GivesUp h refusal) (hHeld : h.isHeld j.host = true) {uses : List Use}
    (hUses : ∀ u ∈ uses, u.isDispose = false) :
    h.isHeld (e.serve uses j).2.host = true ∧ h.releases (e.serve uses j).2.host = h.releases j.host := by
  induction uses generalizing j with
  | nil => exact ⟨hHeld, rfl⟩
  | cons u rest ih =>
      cases u with
      | dispose => cases hUses _ List.mem_cons_self
      | execute code input =>
          obtain ⟨hStill, hSame⟩ := hGivesUp.spares code input j hHeld
          have hAfter : after ((Use.execute code input).job e) j = after (e.execute code input) j := by
            rw [after, Use.job, ending_map]
            rfl
          rw [serve, hAfter, ← hSame]
          exact ih hStill fun u hMem => hUses u (List.mem_cons_of_mem _ hMem)

/-- After the release no use makes a difference. -/
theorem serve_after (hGivesUp : e.GivesUp h refusal) (hGone : h.isHeld j.host = false) (uses : List Use) :
    e.serve uses j = (uses.map (Use.late refusal), j) := by
  induction uses with
  | nil => rfl
  | cons u rest ih =>
      have hUse : ending (u.job e) j = (u.late refusal, j) := by
        cases u with
        | execute code input =>
            rw [Use.job, ending_map, hGivesUp.refuses code input j hGone]
            rfl
        | dispose =>
            rw [Use.job, ending_map, hGivesUp.rests j hGone]
            rfl
      rw [serve, after, hUse, ih]
      rfl

theorem isReleasedOnce (hGivesUp : e.GivesUp h refusal) (hHeld : h.isHeld j.host = true)
    (hFresh : h.releases j.host = 0) : e.IsReleasedOnce h refusal j := by
  intro before later hBefore k l
  obtain ⟨hStill, hNone⟩ := hGivesUp.serve_before hHeld hBefore
  obtain ⟨hGone, hOnce⟩ := hGivesUp.releases k hStill
  refine ⟨hNone.trans hFresh, ?_, ?_⟩
  · rw [hOnce, hNone, hFresh]
  · have hAfter : after (Use.dispose.job e) k = l := by
      rw [after, Use.job, ending_map]
      rfl
    rw [serve_append, serve]
    dsimp only
    rw [hAfter, hGivesUp.serve_after hGone]

end GivesUp

end

end Engine

namespace Holding.Spares

variable {h : Holding σ}

theorem bind {x : Job σ α} {f : α → Job σ β} (hx : h.Spares x) (hf : ∀ a, h.Spares (f a)) : h.Spares (x >>= f) := by
  intro j
  have hFirst := hx j
  simp only [after, ending_bind] at hFirst ⊢
  rcases hEnd : ending x j with ⟨r, k⟩
  rw [hEnd] at hFirst
  cases r with
  | ok a =>
      obtain ⟨hHeld, hSame⟩ := hf a k
      exact ⟨hHeld.trans hFirst.1, hSame.trans hFirst.2⟩
  | error f => exact hFirst

/-- Work that leaves the host alone spares what is held. -/
theorem of_host {x : Job σ α} (hx : ∀ j, (after x j).host = j.host) : h.Spares x := fun j => by
  rw [hx j]
  exact ⟨rfl, rfl⟩

theorem ofExcept (r : Except Failure α) : h.Spares (Job.ofExcept r) := of_host fun j => by simp [after]

theorem outcome {x : Job σ α} (hx : h.Spares x) : h.Spares (Job.outcome x) := by
  intro j
  simpa [after] using hx j

theorem modifyHost {f : σ → σ} (hHeld : ∀ s, h.isHeld (f s) = h.isHeld s)
    (hSame : ∀ s, h.releases (f s) = h.releases s) : h.Spares (Job.modifyHost f) :=
  fun j => ⟨hHeld j.host, hSame j.host⟩

end Holding.Spares

namespace Snippet

variable {κ : Type}

def ContextCall.isCollect : ContextCall → Bool
  | collect => true
  | _ => false

/-- A context with all that was asked of it so far. -/
structure Watched (κ : Type) where
  context : κ
  calls : List ContextCall := []

/-- Access to a context on which all that is asked of it is noted. -/
def ContextAccess.watched (access : ContextAccess κ) : ContextAccess (Watched κ) where
  eval purpose text w :=
    ((access.eval purpose text w.context).1,
      ⟨(access.eval purpose text w.context).2, w.calls ++ [.eval purpose]⟩)
  collect w := ⟨access.collect w.context, w.calls ++ [.collect]⟩

/-- A session holds its context until the memory is given back. -/
def holding : Holding (Session (Watched κ)) where
  isHeld s := s.isOpen
  releases s := s.context.calls.countP ContextCall.isCollect

theorem spares_evaluate (access : ContextAccess κ) (purpose : EvalPurpose) (text : String) :
    holding.Spares (evaluate access.watched purpose text) := by
  intro j
  simp [after, evaluate, holding, ContextAccess.watched, ContextCall.isCollect]

theorem spares_readConsole (access : ContextAccess κ) : holding.Spares (readConsole access.watched) := by
  refine (spares_evaluate access _ _).outcome.bind fun r => ?_
  cases r with
  | ok answer => exact .ofExcept _
  | error f =>
      dsimp only
      split
      · exact (Holding.Spares.of_host fun _ => rfl).bind fun _ => .ofExcept (.ok _)
      · exact .ofExcept (.error f)

theorem spares_outcomeOf (access : ContextAccess κ) (code : Text) :
    holding.Spares (outcomeOf access.watched code) := by
  refine (spares_evaluate access _ _).outcome.bind fun r => ?_
  cases r with
  | ok answer => exact .ofExcept _
  | error f =>
      dsimp only
      split
      · exact (Holding.Spares.of_host fun _ => rfl).bind fun _ => (spares_readConsole access).bind fun _ =>
          (Holding.Spares.ofExcept _).bind fun _ => .ofExcept (.ok _)
      · exact .ofExcept (.error f)

theorem spares_execute (access : ContextAccess κ) (code : Option Text) :
    holding.Spares (execute access.watched code) := by
  refine (Holding.Spares.of_host fun _ => rfl).bind fun s => ?_
  dsimp only
  split
  · exact .ofExcept (.error _)
  · refine (spares_evaluate access _ _).bind fun _ => (Holding.Spares.of_host fun _ => rfl).bind fun _ =>
      (spares_outcomeOf access _).bind fun outcome => ?_
    split
    · exact .ofExcept _
    · exact .ofExcept (.error _)

def refusal : Failure := .classified .evaluation "QuickJS context has already been disposed" none

theorem givesUp (access : ContextAccess κ) : (engine access.watched).GivesUp holding refusal where
  spares code input j hHeld := by
    obtain ⟨hStill, hSame⟩ := spares_execute access code j
    exact ⟨hStill.trans hHeld, hSame⟩
  releases j hHeld := by
    have hOpen : j.host.isOpen = true := hHeld
    simp [after, engine, dispose, holding, ContextAccess.watched, hOpen, ContextCall.isCollect]
  refuses code input j hGone := by
    have hClosed : j.host.isOpen = false := hGone
    simp [engine, execute, hClosed, refusal]
  rests j hGone := by
    have hClosed : j.host.isOpen = false := hGone
    simp [engine, dispose, hClosed, Journal.hosting]

end Snippet

namespace Sandbox

variable {κ : Type}

/-- A session is held until it is killed. -/
def holding : Holding (Session (Watched κ)) where
  isHeld s := s.isHeld
  releases s := s.world.acts.countP Act.isKill

def refusal : Failure := .classified .provisioning "Sandbox session has already been released" none

theorem givesUp (provider : Provider κ) : (engine provider.watched).GivesUp holding refusal where
  spares code input j hHeld := by
    have hSession : j.host.isHeld = true := hHeld
    simp only [after, engine, execute, ending_bind, ending_host, hSession, Bool.not_true, Bool.false_eq_true,
      ↓reduceIte, ending_onWorld, Provider.watched]
    cases (provider.run (code.getD "") j.host.world.world).1 <;> simp [holding, Watched.noted, Act.isKill]
  releases j hHeld := by
    have hHost := host_dispose (p := provider.watched) hHeld
    rw [hHost]
    simp [holding, Provider.watched, Watched.noted, Act.isKill]
  refuses code input j hGone := by
    have hReleased : j.host.isHeld = false := hGone
    simp [engine, execute, hReleased, refusal]
  rests j hGone := by
    have hReleased : j.host.isHeld = false := hGone
    simp [engine, dispose, hReleased]

end Sandbox

namespace Wasm

def Stage.isRelease : Stage → Bool
  | released => true
  | _ => false

/-- An engine holds its runtime and its store until it is disposed of. -/
def holding : Holding EngineState where
  isHeld s := s.isOpen
  releases s := s.stages.countP Stage.isRelease

def refusal : Failure := loadFailure "WebAssembly engine has already been disposed"

theorem spares_reach {e : Stage} (hOther : e.isRelease = false) : holding.Spares (reach e) :=
  .modifyHost (fun _ => rfl) fun _ => List.countP_cons_of_neg (by simp [hOther])

theorem spares_onMachine (m : Machine) (act : Act α) : holding.Spares (onMachine m act) := by
  intro j
  rw [after, ending_onMachine]
  exact ⟨rfl, rfl⟩

/-- Work on modules gives nothing up. -/
theorem Working.spares {kind : FailureClass} {job : EngineJob α} (hJob : Working kind job) : holding.Spares job := by
  induction hJob with
  | pure a => exact .ofExcept (.ok a)
  | bind _ _ ihx ihf => exact ihx.bind ihf
  | fail _ => exact .ofExcept (.error _)
  | look _ _ ih => exact (Holding.Spares.of_host fun _ => rfl).bind ih
  | log _ _ _ => exact .of_host fun _ => rfl
  | write f => exact .modifyHost (fun _ => rfl) fun _ => rfl
  | make m _ =>
      refine (spares_onMachine m _).bind fun p => ?_
      dsimp only
      split
      · exact .ofExcept (.ok _)
      · exact .ofExcept (.error _)
  | call fixture m c args =>
      refine (Holding.Spares.of_host fun _ => rfl).bind fun s => (spares_reach rfl).bind fun _ =>
        (spares_onMachine m _).bind fun p => ?_
      dsimp only
      split
      · exact .ofExcept (.ok _)
      · split
        · refine Holding.Spares.bind (.modifyHost ?_ ?_) fun _ => .ofExcept (.error _)
          · exact fun _ => rfl
          · exact fun _ => rfl
        · exact .ofExcept (.error _)
  | timed _ ih =>
      exact (spares_reach rfl).bind fun _ => ih.outcome.bind fun _ => (spares_reach rfl).bind fun _ => .ofExcept _

theorem spares_run (c : Call) : holding.Spares c.run := by
  refine (Holding.Spares.of_host fun _ => rfl).bind fun s => ?_
  split
  · exact .ofExcept (.error _)
  · refine (Holding.Spares.ofExcept _).bind fun binary => (spares_reach rfl).bind fun _ =>
      (Holding.Spares.of_host fun _ => rfl).bind fun s => ?_
    dsimp only
    split
    · exact .ofExcept (.error _)
    · exact (Holding.Spares.ofExcept _).bind fun host => (working_instantiate _).spares.bind fun x =>
        (working_job x c).spares

/-- The call that an engine makes of a use. -/
def Call.of (code : Option Text) : EngineInput → Call
  | .binary bytes entryPoint args => ⟨code, bytes, entryPoint, args⟩
  | .nothing => ⟨code, none, none, []⟩

theorem execute_eq_run (code : Option Text) (input : EngineInput) :
    engine.execute code input = (Call.of code input).run := by
  cases input <;> rfl

theorem givesUp : engine.GivesUp holding refusal where
  spares code input j hHeld := by
    rw [execute_eq_run]
    obtain ⟨hStill, hSame⟩ := spares_run (Call.of code input) j
    exact ⟨hStill.trans hHeld, hSame⟩
  releases j hHeld := by
    have hOpen : j.host.isOpen = true := hHeld
    simp only [after, engine, dispose, ending_modifyHost, hOpen, ↓reduceIte, holding, Journal.hosting_host]
    exact ⟨rfl, List.countP_cons_of_pos rfl⟩
  refuses code input j hGone := by
    have hClosed : j.host.isOpen = false := hGone
    rw [execute_eq_run]
    simp [Call.run, execute, hClosed, refusal]
  rests j hGone := by
    have hClosed : j.host.isOpen = false := hGone
    simp [engine, dispose, hClosed, Journal.hosting]

end Wasm

/-- Each engine of the service, made anew and used in whatever way, gives up what it holds exactly once, when it is
disposed of for the first time: the memory of its context is collected once, its store is given up once, its session
is killed once, even if the kill fails. From then on it neither evaluates, nor compiles, nor submits anything: whatever
it is to execute it refuses by its own failure, and to dispose of it does nothing. -/
theorem engines_released :
    (∀ {κ : Type} (access : Snippet.ContextAccess κ) (context : κ) (logs : List LogRecord) (events : List EngineEvent),
      (Snippet.engine access.watched).IsReleasedOnce Snippet.holding
        (.classified .evaluation "QuickJS context has already been disposed" none)
        ⟨⟨⟨context, []⟩, true⟩, logs, events⟩) ∧
    (∀ (limit : Option Nat) (surroundings : Wasm.Surroundings) (steps : Nat) (logs : List LogRecord)
      (events : List EngineEvent),
      Wasm.engine.IsReleasedOnce Wasm.holding
        (.classified .load "WebAssembly engine has already been disposed" none)
        ⟨{ memoryLimit := limit, surroundings := surroundings, steps := steps }, logs, events⟩) ∧
    ∀ {κ : Type} (provider : Sandbox.Provider κ) (world : κ) (logs : List LogRecord) (events : List EngineEvent),
      (Sandbox.engine provider.watched).IsReleasedOnce Sandbox.holding
        (.classified .provisioning "Sandbox session has already been released" none)
        ⟨⟨⟨world, []⟩, true⟩, logs, events⟩ := by
  refine ⟨fun access context logs events => ?_, fun limit surroundings steps logs events => ?_,
    fun provider world logs events => ?_⟩
  · exact (Snippet.givesUp access).isReleasedOnce rfl rfl
  · exact Wasm.givesUp.isReleasedOnce rfl rfl
  · exact (Sandbox.givesUp provider).isReleasedOnce rfl rfl

end SnippetService
