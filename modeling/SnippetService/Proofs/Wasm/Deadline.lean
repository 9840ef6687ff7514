import SnippetService.Proofs.Wasm.Record
/-!
When code of modules runs, and whether the timer runs then. A call starts the timer once an instance has been made,
and cancels it however the invocation ends; so the functions that it invokes are timed, and the start function is not.
-/
namespace SnippetService.Wasm

open Job

/-- The bodies of code that were entered while no timer ran, the latest first. -/
def untimed : List Stage → List Body
  | [] => []
  | .entered (.code b) :: earlier => if timerRuns earlier then untimed earlier else b :: untimed earlier
  | _ :: earlier => untimed earlier

namespace Stage

def startsTimer : Stage → Bool
  | timerStarted => true
  | _ => false

def cancelsTimer : Stage → Bool
  | timerCancelled => true
  | _ => false

end Stage

/-- The body of a function of a module. -/
def Callee.body? : Callee → Option Body
  | host _ _ => none
  | code b => some b

namespace Call

/-- The start function that is called to make the instance of a call. There is none unless the module is linked, its
memories are had and it is set up. -/
def start? (c : Call) (env : Surroundings) (limit : Option Nat) : Option Callee :=
  match c.linked env with
  | .error _ => none
  | .ok l =>
    match l.blank env.bounds limit with
    | .error _ => none
    | .ok m => l.called? m

/-- The code of the start function, if it is one of the module and not of the host. -/
def startCode? (c : Call) (env : Surroundings) (limit : Option Nat) : Option Body :=
  (c.start? env limit).bind Callee.body?

/-- The journal after calls one after another. A call that fails does not keep the next from being made. -/
def afterAll (calls : List Call) (j : Journal EngineState) : Journal EngineState :=
  calls.foldl (fun k c => after c.run k) j

end Call

/-- The stage of a function that was called, if there is one. -/
def entry (f : Option Callee) : List Stage := (f.map Stage.entered).toList

/-- The stages that a call goes through, the latest first, if its start function is the one that is given. -/
inductive Timeline (start : Option Callee) : List Stage → Prop where
  /-- Nothing is compiled. -/
  | refused (hNone : start = none) : Timeline start []
  /-- No instance is made. -/
  | unmade : Timeline start (entry start ++ [.compiled])
  /-- An instance is made, and then a function may be invoked. -/
  | made (f : Option Callee) :
      Timeline start (.timerCancelled :: entry f ++ .timerStarted :: entry start ++ [.compiled])

theorem stages_visited (s : EngineState) (f : Option Callee) : (s.visited f).stages = entry f ++ s.stages := by
  cases f <;> rfl

section

variable {env : Surroundings} {limit fuel : Option Nat} {record : List Text} {j : Journal EngineState} {l : Linked}
  {c : Call}

/-- The work on an instance adds what is invoked, and the timer around it. -/
theorem stages_instance {x : Instance} (hFixture : x.fixture = l.fixture) (hFunctions : x.functions = l.exports)
    (hNames : l.exports.map (·.1) = l.program.module.functionNames) (hLines : x.machine.lines = j.host.lines) :
    (after (x.job c) j).host.stages =
      .timerCancelled :: entry (l.invoked? c) ++ .timerStarted :: j.host.stages := by
  have hCloses := closes_enter (c := c) (j := j.hosting (j.host.noted .timerStarted)) hFixture hFunctions hNames
    rfl hLines
  have hStages := hCloses.stages_eq
  rw [stages_visited] at hStages
  simp only [after, Instance.job, ending_bind, ending_timed] at hStages ⊢
  rcases hEnter : ending (enter x c.args _) (j.hosting (j.host.noted .timerStarted)) with ⟨f | u, k⟩
  · rw [hEnter] at hStages
    exact congrArg (List.cons Stage.timerCancelled) hStages
  · rw [hEnter] at hStages
    exact congrArg (List.cons Stage.timerCancelled) hStages

/-- The making of an instance adds its start function. -/
theorem stages_instantiate (hKeeps : Keeps env limit fuel record j.host) (hLinked : c.linked env = .ok l) :
    (after (instantiate l) j).host.stages = entry (c.start? env limit) ++ j.host.stages := by
  have hLimit := hKeeps.memoryLimit
  simp only [Call.start?, hLinked, after]
  cases hBlank : l.blank env.bounds limit with
  | error message =>
      rw [ending_instantiate_refused (j := j) (by rw [hKeeps.surroundings, hLimit]; exact hBlank)]
      rfl
  | ok m =>
      have hInstance :=
        ending_instantiate_blank (j := j) (by rw [hKeeps.surroundings, hLimit]; exact hBlank) hKeeps.isIdle
      rcases hStart : (l.start j.host.fuel).ending (m.withLines j.host.lines) with ⟨h | u, n⟩
      · rw [hStart] at hInstance
        obtain ⟨f, hFails⟩ := hInstance
        rw [hFails]
        exact stages_visited _ _
      · rw [hStart] at hInstance
        dsimp only at hInstance
        rw [hInstance]
        exact stages_visited _ _

/-- A call whose program has been linked adds its start function, and the timer once an instance is made. -/
theorem stages_linked (hKeeps : Keeps env limit fuel record j.host) (hLinked : c.linked env = .ok l) :
    (after (l.job c) j).host.stages = entry (c.start? env limit) ++ j.host.stages ∨
    ∃ f, (after (l.job c) j).host.stages =
      .timerCancelled :: entry f ++ .timerStarted :: entry (c.start? env limit) ++ j.host.stages := by
  have hStages := stages_instantiate hKeeps hLinked
  simp only [after, Linked.job, ending_bind] at hStages ⊢
  rcases hMake : ending (instantiate l) j with ⟨f | x, k⟩
  · rw [hMake] at hStages
    exact .inl hStages
  · rw [hMake] at hStages
    obtain ⟨hFixture, hFunctions, hLines⟩ := of_made hKeeps.isIdle hMake
    have hInstance := stages_instance (c := c) hFixture hFunctions (names_linked hLinked) hLines
    rw [after] at hInstance
    dsimp only at hStages ⊢
    refine .inr ⟨l.invoked? c, ?_⟩
    rw [hInstance, hStages]
    simp only [List.cons_append, List.append_assoc]

theorem start?_of_unlinked {f : Failure} (hLinked : c.linked env = .error f) : c.start? env limit = none := by
  rw [Call.start?, hLinked]

/-- A call adds the stages of its timeline. -/
theorem run_timeline (hKeeps : Keeps env limit fuel record j.host) :
    ∃ added, (after c.run j).host.stages = added ++ j.host.stages ∧ Timeline (c.start? env limit) added := by
  have hCompiled : Keeps env limit fuel record (j.host.noted .compiled) := hKeeps.staged hKeeps.isIdle
  cases c.approach env with
  | refused hLinked hRun =>
      rw [after, hRun hKeeps.isOpen hKeeps.surroundings]
      exact ⟨[], rfl, .refused (start?_of_unlinked hLinked)⟩
  | unlinked hLinked hRun =>
      have hUnmade : Timeline (c.start? env limit) (entry (c.start? env limit) ++ [.compiled]) := .unmade
      rw [start?_of_unlinked hLinked] at hUnmade ⊢
      rw [after, hRun hKeeps.isOpen hKeeps.surroundings]
      exact ⟨_, rfl, hUnmade⟩
  | linked hLinked hRun =>
      rw [after, hRun hKeeps.isOpen hKeeps.surroundings]
      rcases stages_linked (j := j.hosting (j.host.noted .compiled)) hCompiled hLinked with hStages | ⟨f, hStages⟩
      · exact ⟨_, by rw [← after, hStages, List.append_assoc]; rfl, .unmade⟩
      · exact ⟨_, by rw [← after, hStages, List.append_assoc _ [Stage.compiled]]; rfl, .made f⟩

end

section

variable {start : Option Callee} {added stages : List Stage}

/-- Where no timer runs, what is called is timed only if it is not code. -/
theorem untimed_entry (f : Option Callee) (hIdle : timerRuns stages = false) :
    untimed (entry f ++ stages) = (f.bind Callee.body?).toList ++ untimed stages := by
  cases f with
  | none => rfl
  | some c =>
      cases c with
      | host h type => rfl
      | code b => simp [entry, untimed, hIdle, Callee.body?]

theorem untimed_entry_timed (f : Option Callee) (hTimed : timerRuns stages = true) :
    untimed (entry f ++ stages) = untimed stages := by
  cases f with
  | none => rfl
  | some c =>
      cases c with
      | host h type => rfl
      | code b => simp [entry, untimed, hTimed]

theorem starts_entry (f : Option Callee) : (entry f).countP Stage.startsTimer = 0 := by
  cases f <;> rfl

theorem cancels_entry (f : Option Callee) : (entry f).countP Stage.cancelsTimer = 0 := by
  cases f <;> rfl

namespace Timeline

/-- Of the code that a call enters, that of the start function is all that is not timed. -/
theorem untimed_append (hTimeline : Timeline start added) (hIdle : timerRuns stages = false) :
    untimed (added ++ stages) = (start.bind Callee.body?).toList ++ untimed stages := by
  have hStart : untimed (entry start ++ .compiled :: stages) = (start.bind Callee.body?).toList ++ untimed stages :=
    untimed_entry start hIdle
  cases hTimeline with
  | refused hNone =>
      rw [hNone]
      rfl
  | unmade =>
      rw [List.append_assoc]
      exact hStart
  | made f =>
      rw [List.append_assoc, List.append_assoc]
      exact (untimed_entry_timed f rfl).trans hStart

/-- A call cancels the timer as often as it starts it. -/
theorem balanced (hTimeline : Timeline start added) :
    added.countP Stage.startsTimer = added.countP Stage.cancelsTimer := by
  cases hTimeline with
  | refused hNone => rfl
  | unmade =>
      rw [List.countP_append, List.countP_append, starts_entry, cancels_entry]
      rfl
  | made f =>
      simp only [List.cons_append, List.countP_append, List.countP_cons, starts_entry, cancels_entry]
      rfl

end Timeline

end

/-- After calls on an engine that has kept a record, the code that has run untimed is that of their start functions,
and the timer has been cancelled as often as it was started. -/
theorem timed_afterAll {env : Surroundings} {limit fuel : Option Nat} {record : List Text} {j : Journal EngineState}
    (hKeeps : Keeps env limit fuel record j.host)
    (hBalanced : j.host.stages.countP Stage.startsTimer = j.host.stages.countP Stage.cancelsTimer)
    (calls : List Call) :
    let k := Call.afterAll calls j
    untimed k.host.stages = (calls.filterMap (·.startCode? env limit)).reverse ++ untimed j.host.stages ∧
    k.host.stages.countP Stage.startsTimer = k.host.stages.countP Stage.cancelsTimer ∧
    k.host.isTimed = false := by
  -- Between two calls no timer runs, which `Keeps` says; so the stages of each call can be told by themselves.
  induction calls generalizing fuel record j with
  | nil => exact ⟨rfl, hBalanced, hKeeps.isIdle⟩
  | cons c rest ih =>
      obtain ⟨later, hLater, -⟩ := run_course hKeeps c
      obtain ⟨added, hStages, hTimeline⟩ := run_timeline (c := c) hKeeps
      have hUntimed := hTimeline.untimed_append hKeeps.isIdle
      obtain ⟨hRest, hEven, hIdle⟩ := ih hLater (by
        rw [hStages, List.countP_append, List.countP_append, hBalanced, hTimeline.balanced])
      refine ⟨?_, hEven, hIdle⟩
      change untimed (Call.afterAll rest (after c.run j)).host.stages = _
      rw [hRest, hStages, hUntimed]
      change _ ++ ((c.startCode? env limit).toList ++ _) = _
      cases hStart : c.startCode? env limit <;> simp [hStart]

/-- Whatever is called on an engine, one call after another: the code that has run while no timer ran is that of the
start functions of the calls, and no other. So all code was timed exactly if no call has come to a start function of
its module. After each call the timer has been cancelled as often as it was started, and does not run. -/
theorem serve_timed (env : Surroundings) (limit : Option Nat) (steps : Nat) (logs : List LogRecord)
    (events : List EngineEvent) (calls : List Call) :
    let j := Call.afterAll calls ⟨{ memoryLimit := limit, surroundings := env, steps := steps }, logs, events⟩
    untimed j.host.stages = (calls.filterMap (·.startCode? env limit)).reverse ∧
    j.host.stages.countP Stage.startsTimer = j.host.stages.countP Stage.cancelsTimer ∧
    j.host.isTimed = false := by
  have hFresh : Keeps env limit (some steps) []
      { memoryLimit := limit, surroundings := env, steps := steps } := ⟨rfl, rfl, rfl, rfl, rfl, rfl⟩
  have hServed := timed_afterAll (j := ⟨_, logs, events⟩) hFresh rfl calls
  rwa [untimed, List.append_nil] at hServed

/-- A module that exports nothing and whose start function does nothing four times. -/
def idlingStart : Call where
  code := none
  bytes := some [0, 97, 115, 109, 1, 0, 0, 0, 1, 4, 1, 96, 0, 0, 3, 2, 1, 0, 8, 1, 0, 10, 8, 1, 6, 0, 1, 1, 1, 1, 11]

/-- The code of a start function runs with no timer: it takes more steps than the timer would leave to it, and the call
succeeds nevertheless. -/
theorem serve_timed_start :
    let j : Journal EngineState := ⟨{ surroundings := .small, steps := 3 }, [], []⟩
    (untimed (Call.afterAll [idlingStart] j).host.stages).map (·.ops.length) = [5] ∧
    (ending idlingStart.run j).1.toOption.map (·.output) = some (some ("Available exports: none" : Text)) := by
  decide +kernel

end SnippetService.Wasm
