import SnippetService.Proofs.Execution.Factories
import SnippetService.Proofs.Execution.Isolation
import SnippetService.Service.Backend
/-!
The same call at another time. The clock is read at the end of a call and nowhere else, and engines take nothing from
the records. So on equal hosts a call ends alike whatever was recorded before and whatever the clock shows, but for the
time that its result tells, and it leaves equal hosts.
-/
namespace SnippetService

open Job

variable {σ ρ τ κ : Type}

namespace Job

/-- Work on hosts that are made from equal hosts leaves equal hosts behind. -/
theorem Agree.within {α β : Type} {R : α → β → Prop} {x : Job ρ α} {y : Job ρ β} (hWork : Agree (· = ·) R x y)
    (enter : σ → ρ) (leave : σ → ρ → σ) :
    Agree (· = ·) R (Job.within enter leave x) (Job.within enter leave y) := by
  intro j k hHosts
  obtain ⟨hEnds, hAfter⟩ := hWork (j.hosting (enter j.host)) (k.hosting (enter k.host)) (congrArg enter hHosts)
  rw [after, after, ending_within, ending_within]
  refine ⟨hEnds, ?_⟩
  rw [Journal.hosting_host, Journal.hosting_host, hAfter, hHosts]

end Job

namespace Executor

/-- An engine with which an executor does the same on equal hosts. -/
structure Handles (x : Executor σ) (e : Engine σ) : Prop where
  run : ∀ code options, (x.run e code options).Oblivious
  dispose : e.dispose.Oblivious

/-- An executor whose parts take nothing from the records. -/
structure Oblivious (x : Executor σ) : Prop where
  preflight : ∀ code options, (x.preflight code options).Oblivious
  build : Agree (· = ·) (fun e f => e = f ∧ x.Handles e) x.build x.build

theorem oblivious_settle (x : Executor σ) (f : Failure) : (x.settle f).Oblivious := by
  cases f with
  | classified kind message hint => exact (Job.Oblivious.log _ _ _).bind fun _ => .pure rfl
  | unexpected kind text => exact (Job.Oblivious.log _ _ _).bind fun _ => .pure rfl
  | shutdown kind text => exact .pure rfl

theorem oblivious_settled (x : Executor σ) (ended : Except Failure RunResult) : (x.settled ended).Oblivious := by
  cases ended with
  | ok r => exact .pure rfl
  | error f => exact x.oblivious_settle f

theorem oblivious_release (x : Executor σ) {e : Engine σ} (hDispose : e.dispose.Oblivious) :
    (x.release e).Oblivious := by
  refine (Job.Oblivious.tell _).bind fun _ => hDispose.outcome.bind fun ended => ?_
  cases ended with
  | ok u => exact .pure rfl
  | error f =>
      dsimp only
      split
      · exact .log _ _ _
      · exact .fail f

variable {x : Executor σ}

theorem Oblivious.attempt (hExecutor : x.Oblivious) (code : Option Text) (options : Options) :
    (x.attempt code options).Oblivious := by
  refine (Job.Oblivious.tell _).bind fun _ => hExecutor.build.outcome.bind fun first second hBuilt => ?_
  cases hBuilt with
  | error f => exact x.oblivious_settle f
  | @ok e _ hEngine =>
      obtain ⟨rfl, hHandles⟩ := hEngine
      refine (hHandles.run code options).outcome.bind fun ended => ?_
      exact (x.oblivious_settled ended).bind fun _ => (x.oblivious_release hHandles.dispose).bind fun _ => .pure rfl

/-- Calls on equal hosts end alike but for the time, and leave equal hosts. -/
theorem Oblivious.execute (hExecutor : x.Oblivious) (elapsed other : Nat) (code : Option Text)
    (options : Options) :
    Agree (· = ·) RunResult.Same (x.execute elapsed code options) (x.execute other code options) := by
  unfold Executor.execute
  split
  · exact .pure rfl
  · refine Agree.bind (hExecutor.preflight code options) fun early _ hSame => ?_
    subst hSame
    cases early with
    | some early => exact .pure rfl
    | none =>
        refine Agree.bind (hExecutor.attempt code options) fun ended _ hSame => ?_
        subst hSame
        exact (Agree.ofExcept (Agrees.refl ended)).bind fun r s hSame => .pure (by rw [hSame]; rfl)

end Executor

namespace Coordinator

/-- A coordinator of one engine, whose work is composed. -/
theorem oblivious_executor (c : Coordinator) {e : Engine σ} (hEngine : e.Composed) :
    (c.executor (pure e)).Oblivious where
  preflight code options := by
    rw [(c.frugal _).preflight]
    exact .pure rfl
  build := by
    rw [executor_build]
    exact .pure ⟨rfl, c.run_agree fun code input => (hEngine.execute code input).oblivious,
      hEngine.dispose.oblivious⟩

end Coordinator

theorem Sandbox.oblivious_executor (provider : Option (Sandbox.Provider κ)) (key : Option String) :
    (Sandbox.executor provider key).Oblivious where
  preflight code options := by
    dsimp only [Sandbox.executor]
    split
    · exact .pure rfl
    · exact (Job.Oblivious.log _ _ _).bind fun _ => .pure rfl
  build := by
    cases provider with
    | none => exact .fail _
    | some p =>
        refine Agree.bind (composed_onWorld p.create).oblivious fun _ _ _ => ?_
        refine (Agree.modifyHost fun _ _ hHosts => by rw [hHosts]).bind fun _ _ _ => .pure ⟨rfl, ?_, ?_⟩
        · exact fun code options => (Job.Oblivious.tell _).bind fun _ => (composed_execute p code).oblivious
        · exact (composed_dispose p).oblivious

/-- Hosts on which an engine comes to the same with a code: there is none for one and the same reason, or the runs end
alike. -/
inductive Executor.Repeats (x : Executor ρ) (e : Engine ρ) (code : Option Text) (options : Options) :
    Except Failure ρ → Except Failure ρ → Prop where
  | refused (f : Failure) : x.Repeats e code options (.error f) (.error f)
  | had {h k : ρ}
      (runs : (ending (x.run e code options) ⟨h, [], []⟩).1 = (ending (x.run e code options) ⟨k, [], []⟩).1) :
      x.Repeats e code options (.ok h) (.ok k)

theorem Executor.Repeats.refl (x : Executor ρ) (e : Engine ρ) (code : Option Text) (options : Options)
    (host : Except Failure ρ) : x.Repeats e code options host host := by
  cases host with
  | error f => exact .refused f
  | ok h => exact .had rfl

/-- An engine that can always be disposed of. -/
def Engine.Releases (e : Engine ρ) : Prop := ∀ j, (ending e.dispose j).1 = .ok ()

namespace Coordinator

variable {e : Engine ρ} {code : Option Text} {options : Options}

/-- A call on a host of its own comes to what the run does there. -/
theorem ending_execute_own (c : Coordinator) (hEngine : e.Composed) (hReleases : e.Releases) {elapsed : Nat}
    (hInput : (c.executor (return e)).hasInput code options = true) (j : Journal ρ) :
    (ending ((c.executor (return e)).execute elapsed code options) j).1 =
      (c.executor (return e)).conclude elapsed
        (ending ((c.executor (return e)).run e code options) ⟨j.host, [], []⟩).1 (.ok ()) := by
  have hNone : ending ((c.executor (return e)).preflight code options) j = (.ok none, j) := by
    rw [(c.frugal _).preflight, ending_pure]
  have hBuild : ending (c.executor (return e)).build (j.noted .build) = (.ok e, j.noted .build) := by
    rw [executor_build]
    rfl
  have hHandles := (c.oblivious_executor hEngine).build (j.noted .build) (j.noted .build) rfl
  rw [hBuild] at hHandles
  obtain ⟨hEnds, -⟩ := hHandles
  cases hEnds with
  | ok hValues =>
      have hRun := (hValues.2.run code options).end_eq (j := j.noted .build) (k := ⟨j.host, [], []⟩) rfl
      rw [Executor.ending_execute_parts hInput hNone, Executor.worked, Executor.disposed, hBuild]
      dsimp only
      rw [hRun, hReleases]

/-- A call for which no engine can be had comes to the failure to have one. -/
theorem ending_execute_unequipped (c : Coordinator) (f : Failure) (elapsed : Nat) {x : Executor ρ}
    (hExecutor : x = c.unequipped f) (hInput : x.hasInput code options = true) (j : Journal ρ) :
    ending (x.execute elapsed code options) j =
      (x.conclude elapsed (.error f) (.ok ()), (j.noted .build).logged (x.failureNotes f)) := by
  subst hExecutor
  have hNone : ending ((c.unequipped f).preflight code options) j = (.ok none, j) := by
    rw [unequipped, (c.frugal _).preflight, ending_pure]
  have hBuild : ending (c.unequipped f).build (j.noted .build) = (.error f, j.noted .build) := by
    rw [unequipped, executor_build]
    rfl
  rw [Executor.ending_execute_attempted hInput hNone, after, Executor.ending_attempt_unbuilt hBuild]
  rfl

/-- Such calls end alike but for the time on any hosts, and leave them as they are. -/
theorem agree_unequipped {I : σ → ρ → Prop} (c : Coordinator) (f : Failure) (elapsed other : Nat)
    (code : Option Text) (options : Options) :
    Agree I RunResult.Same ((c.unequipped f : Executor σ).execute elapsed code options)
      ((c.unequipped f : Executor ρ).execute other code options) := by
  have hRuntime : (c.unequipped f : Executor σ).runtime = (c.unequipped f : Executor ρ).runtime := by
    cases c <;> rfl
  have hGiven : (c.unequipped f : Executor σ).hasInput code options =
      (c.unequipped f : Executor ρ).hasInput code options := by
    cases c <;> rfl
  intro j k hHosts
  cases hInput : (c.unequipped f : Executor σ).hasInput code options with
  | false =>
      rw [hInput] at hGiven
      rw [after, after, Executor.ending_execute_rejected hInput, Executor.ending_execute_rejected hGiven.symm, hRuntime]
      exact ⟨.ok rfl, hHosts⟩
  | true =>
      rw [hInput] at hGiven
      rw [after, after, c.ending_execute_unequipped f elapsed rfl hInput,
        c.ending_execute_unequipped f other rfl hGiven.symm]
      exact ⟨Executor.conclude_agrees hRuntime elapsed other (.error f) (.ok ()), hHosts⟩

/-- Calls on hosts on which the engine comes to the same end alike but for the time. -/
theorem execute_repeats (c : Coordinator) (hEngine : e.Composed) (hReleases : e.Releases) (elapsed other : Nat)
    (j k : Journal ρ) (hRuns : (ending ((c.executor (return e)).run e code options) ⟨j.host, [], []⟩).1 =
      (ending ((c.executor (return e)).run e code options) ⟨k.host, [], []⟩).1) :
    Agrees RunResult.Same (ending ((c.executor (return e)).execute elapsed code options) j).1
      (ending ((c.executor (return e)).execute other code options) k).1 := by
  cases hInput : (c.executor (return e)).hasInput code options with
  | false =>
      rw [Executor.ending_execute_rejected hInput, Executor.ending_execute_rejected hInput]
      exact .ok rfl
  | true =>
      rw [c.ending_execute_own hEngine hReleases hInput, c.ending_execute_own hEngine hReleases hInput, hRuns]
      exact Executor.conclude_agrees rfl elapsed other _ _

end Coordinator

theorem Snippet.releases_engine (access : Snippet.ContextAccess κ) : (Snippet.engine access).Releases :=
  fun _ => rfl

theorem Wasm.releases_engine : Wasm.engine.Releases := fun _ => rfl

/-- What the world adds has no part in what a request comes to on a new host of its family. -/
def Platform.Settles (p : Platform κ) (s : Settings) (code : Option Text) (options : Options) : Family → Prop
  | .javascript => ∀ chance other,
      let e := Snippet.engine p.contexts.access
      (Snippet.executor (return e)).Repeats e code options (p.session s chance) (p.session s other)
  | .wasm => ∀ chance other,
      (Wasm.executor (return Wasm.engine)).Repeats Wasm.engine code options
        (.ok (p.machine s chance)) (.ok (p.machine s other))
  | .python => True

namespace Backend

variable {code : Option Text} {options : Options} {t u : Moment}

/-- A request on hosts of its own is answered alike where the engine comes to the same on both. -/
theorem onFresh_repeats {I : σ → τ → Prop} (c : Coordinator) (language : String) {e : Engine ρ} (hEngine : e.Composed)
    (hReleases : e.Releases) {host : Chance → Except Failure ρ}
    (hHosts : (c.executor (return e)).Repeats e code options (host t.chance) (host u.chance)) :
    Agree I RunResult.Same ((onFresh language (fun _ => c.executor) e host : Backend σ).execute t code options)
      ((onFresh language (fun _ => c.executor) e host : Backend τ).execute u code options) := by
  unfold onFresh
  dsimp only
  generalize host t.chance = first at hHosts
  generalize host u.chance = second at hHosts
  cases hHosts with
  | refused f => exact c.agree_unequipped f t.elapsed u.elapsed code options
  | had runs =>
      intro j k hJournals
      rw [after, after, ending_within, ending_within]
      exact ⟨c.execute_repeats hEngine hReleases t.elapsed u.elapsed _ _ runs, hJournals⟩

/-- An executor whose engines are placed in a memory does as one that has a new host. -/
theorem placing_agrees (c : Coordinator) (language : String) {e : Engine ρ} (hEngine : e.Composed)
    (host : Chance → Except Failure ρ) (hChance : t.chance = u.chance) (code : Option Text) (options : Options)
    (j : Journal (List ρ)) (k : Journal σ) :
    Agrees RunResult.Same
      (ending ((c.executor (e.placing (host t.chance))).execute t.elapsed code options) j).1
      (ending ((onFresh language (fun _ => c.executor) e host).execute u code options) k).1 := by
  unfold onFresh
  dsimp only
  rw [hChance]
  cases host u.chance with
  | ok h =>
      dsimp only
      rw [ending_within]
      exact (c.twins_placing hEngine h).execute rfl t.elapsed u.elapsed code options
  | error f => exact (c.twins_unplaced e f).execute trivial t.elapsed u.elapsed code options

theorem scripts_repeats {I : σ → τ → Prop} {p : Platform κ} {s : Settings}
    (hSettles : p.Settles s code options .javascript ∨ t.chance = u.chance) :
    Agree I RunResult.Same ((scripts p s : Backend σ).execute t code options)
      ((scripts p s : Backend τ).execute u code options) := by
  refine onFresh_repeats .scripts _ (Snippet.composed_engine _) (Snippet.releases_engine _) ?_
  obtain hSettles | hSame := hSettles
  · exact hSettles t.chance u.chance
  · rw [hSame]
    exact .refl _ _ _ _ _

theorem modules_repeats {I : σ → τ → Prop} {p : Platform κ} {s : Settings}
    (hSettles : p.Settles s code options .wasm ∨ t.chance = u.chance) :
    Agree I RunResult.Same ((modules p s : Backend σ).execute t code options)
      ((modules p s : Backend τ).execute u code options) := by
  refine onFresh_repeats .modules _ Wasm.composed_engine Wasm.releases_engine ?_
  obtain hSettles | hSame := hSettles
  · exact hSettles t.chance u.chance
  · rw [hSame]
    exact .refl _ _ _ _ _

theorem remote_repeats (provider : Option (Sandbox.Provider σ)) (key : Option String) (t u : Moment)
    (code : Option Text) (options : Options) :
    Agree (· = ·) RunResult.Same ((remote provider key).execute t code options)
      ((remote provider key).execute u code options) :=
  ((Sandbox.oblivious_executor provider key).execute t.elapsed u.elapsed code options).within
    (fun world => ⟨world, false⟩) (fun _ session => session.world)

end Backend

namespace Executor

variable (c : Coordinator) {e : Engine ρ} (host : Chance → Except Failure ρ)

/-- What a call comes to in an empty memory is what it comes to on a new host. -/
theorem alone_placing (hEngine : e.Composed) (t : Moment) (q : Option Text × Options) :
    alone (fun chance => c.executor (e.placing (host chance))) [] t q =
      (ending ((Backend.onFresh "" (fun _ => c.executor) e host : Backend Unit).execute t q.1 q.2) ⟨(), [], []⟩).1.map
        RunResult.untimed :=
  Agrees.view_iff.mp (Backend.placing_agrees c "" hEngine host rfl q.1 q.2 ⟨[], [], []⟩ ⟨(), [], []⟩)

/-- Calls of an executor whose engines stay in one memory are isolated. -/
theorem isolated_placing (hEngine : e.Composed) :
    Isolated RunResult.untimed (call fun chance => c.executor (e.placing (host chance)))
      (alone (fun chance => c.executor (e.placing (host chance))) []) := by
  refine .of_alone fun t q j => ?_
  rw [alone_placing c host hEngine]
  exact Agrees.view_iff.mp (Backend.placing_agrees c "" hEngine host rfl q.1 q.2 j ⟨(), [], []⟩)

/-- A call is steady if its engine comes to the same on any new host. -/
theorem steady_placing (hEngine : e.Composed) (hReleases : e.Releases) {code : Option Text} {options : Options}
    (hHosts : ∀ chance other, (c.executor (return e)).Repeats e code options (host chance) (host other)) :
    Steady (alone (fun chance => c.executor (e.placing (host chance))) []) (code, options) := by
  intro t u
  rw [alone_placing c host hEngine, alone_placing c host hEngine]
  exact Agrees.view_iff.mp
    (Backend.onFresh_repeats (I := (· = ·)) c "" hEngine hReleases (hHosts t.chance u.chance) _ _ rfl).1

end Executor

end SnippetService
