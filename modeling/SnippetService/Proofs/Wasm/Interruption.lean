import SnippetService.Proofs.Wasm.Deadline
import SnippetService.Proofs.Wasm.Working
/-!
Engines whose time is over. The answer of a call that is interrupted tells it, and from then on the time stays over:
a later call that comes to code is interrupted there, and any other comes to what it would come to with time left.
-/
namespace SnippetService.Wasm

open Job

variable {α β : Type}

theorem report_injective_interrupted {t : Trap} (hReport : t.report = Trap.report .interrupted) : t = .interrupted := by
  cases t with
  | interrupted => rfl
  | memoryFault address size =>
      unfold Trap.report at hReport
      rw [String.append_right_inj] at hReport
      have hSign := congrArg (fun text => text.toList[4]?) hReport
      simp [Trap.causes, Trap.causeLines, Trap.name, String.join_cons] at hSign
  | _ => exact absurd hReport (by decide)

/-- A halted call tells of an interruption exactly if it was stopped by the timer, or because the time is over. -/
theorem stopped_of_interruption {s : EngineState} {kind other : FailureClass} {h : Halt}
    (hUnforeseen : h.isUnforeseen = true) (hFailure : s.failureOf kind h = interruption other) :
    h.isTimeout = true ∧ (s.isTimed = true ∨ s.isOver = true) := by
  unfold EngineState.failureOf at hFailure
  split at hFailure
  · cases hFailure
  · rename_i hStopped
    cases h with
    | trap t =>
        have hReport := (Failure.classified.inj hFailure).2.1
        cases report_injective_interrupted (Text.ofString_inj.mp hReport)
        refine ⟨rfl, ?_⟩
        cases hTimed : s.isTimed <;> simp_all [Halt.isTimeout]
    | failed f => exact absurd hFailure (calm_of_isUnforeseen hUnforeseen other)
    | stuck => cases hFailure

/-- Work whose end tells of every interruption: the time is over then. -/
def Tells (job : EngineJob α) : Prop :=
  ∀ j kind, (ending job j).1 = .error (interruption kind) → (after job j).host.isOver = true

namespace Tells

theorem bind {x : EngineJob α} {f : α → EngineJob β} (hx : Tells x) (hf : ∀ a, Tells (f a)) : Tells (x >>= f) := by
  intro j kind hEnd
  have hFirst := hx j kind
  rw [after] at hFirst ⊢
  rw [ending_bind] at hEnd ⊢
  rcases hRun : ending x j with ⟨r, k⟩
  rw [hRun] at hFirst hEnd
  cases r with
  | ok a => exact hf a k kind hEnd
  | error g =>
      cases hEnd
      exact hFirst rfl

theorem of_calm {P : α → Prop} {job : EngineJob α} (hJob : job.EndsIn Calm P) : Tells job := by
  intro j kind hEnd
  have hEnds := hJob j
  rw [hEnd] at hEnds
  exact absurd rfl (hEnds kind)

theorem fail {f : Failure} (hCalm : Calm f) : Tells (Job.fail f : EngineJob α) :=
  of_calm (P := fun _ => True) (.fail hCalm)

theorem ofExcept {r : Except Failure α} (hr : Ends Calm (fun _ => True) r) : Tells (Job.ofExcept r) :=
  of_calm (.ofExcept hr)

theorem host : Tells Job.host := of_calm .host

theorem modifyHost (f : EngineState → EngineState) : Tells (Job.modifyHost f) := of_calm (.modifyHost f)

theorem timed {job : EngineJob α} (hJob : Tells job) : Tells (timed job) := by
  intro j kind hEnd
  rw [ending_timed] at hEnd
  rw [after, ending_timed]
  exact hJob _ kind hEnd

theorem callFunction (kind : FailureClass) (fixture : Fixture) (m : Machine) (c : Callee) (args : List Value) :
    Tells (callFunction kind fixture m c args) := by
  intro j other hEnd
  have hUnforeseen := (Act.Composed.invoke fixture
    (allowance fixture.surroundings.patience j.host.isTimed j.host.fuel) c args).isUnforeseen
    (m.withLines j.host.lines)
  rw [after]
  rw [ending_callFunction] at hEnd ⊢
  rcases hRun : (Act.invoke fixture (allowance fixture.surroundings.patience j.host.isTimed j.host.fuel) c
    args).ending (m.withLines j.host.lines) with ⟨h | vs, n⟩
  · rw [hRun] at hEnd hUnforeseen
    obtain ⟨hTimeout, hTimed | hOver⟩ := stopped_of_interruption (hUnforeseen h rfl) (Except.error.inj hEnd)
    · simp [hTimeout, hTimed]
    · simp [hOver]
  · rw [hRun] at hEnd
    cases hEnd

theorem initially (m : Machine) {act : Act Unit} (hAct : act.Composed) : Tells (initially Trap.brief m act) := by
  refine of_calm (P := fun _ => True) ((endsIn_onMachine m hAct).bind fun p hUnforeseen => ?_)
  rcases p with ⟨r, n⟩
  cases r with
  | ok u => exact .pure trivial
  | error h =>
      refine .fail ?_
      cases h with
      | trap t => exact calm_of_head (by rw [Trap.brief, head?_ofString_append _ _ rfl]; decide)
      | failed f => exact calm_of_isUnforeseen (hUnforeseen _ rfl)
      | stuck => exact calm_of_isUnforeseen rfl

end Tells

theorem Working.tells {kind : FailureClass} {job : EngineJob α} (hJob : Working kind job) : Tells job := by
  induction hJob with
  | pure a => exact .ofExcept (r := .ok a) trivial
  | bind _ _ ihx ihf => exact ihx.bind ihf
  | fail hCalm => exact .fail hCalm
  | look _ _ ih => exact Tells.host.bind ih
  | log level area message => exact .of_calm (.log level area message)
  | write f => exact .modifyHost _
  | make m hAct => exact .initially m hAct
  | call fixture m c args => exact .callFunction _ fixture m c args
  | timed _ ih => exact ih.timed

/-- Where a call answers that it is interrupted, the time of its engine is over. -/
theorem tells_run (c : Call) : Tells c.run := by
  refine Tells.host.bind fun s => ?_
  split
  · exact .fail (calm_of_head (by decide))
  · refine (Tells.ofExcept (calm_classify _ _)).bind fun binary => (Tells.modifyHost _).bind fun _ =>
      Tells.host.bind fun t => ?_
    dsimp only
    split
    · exact .fail (calm_loadFault _)
    · exact (Tells.ofExcept (Ends.mapM (calm_callee _) _)).bind fun host =>
        (working_instantiate _).tells.bind fun x => (working_job x c).tells

/-- Whether code of a module is entered. -/
def Stage.entersCode : Stage → Bool
  | entered (.code _) => true
  | _ => false

/-- How often code was entered. -/
def codes (stages : List Stage) : Nat := stages.countP Stage.entersCode

theorem Alike.noted {s t : EngineState} (hAlike : Alike s t) {e : Stage}
    (hTimer : (s.noted e).isTimed = (t.noted e).isTimed) : Alike (s.noted e) (t.noted e) :=
  ⟨hAlike.isOpen, hAlike.surroundings, hAlike.memoryLimit, hAlike.lines, hTimer⟩

theorem Alike.withLines {s t : EngineState} (hAlike : Alike s t) (lines : List Text) :
    Alike { s with lines := lines } { t with lines := lines } :=
  ⟨hAlike.isOpen, hAlike.surroundings, hAlike.memoryLimit, rfl, hAlike.isTimed⟩

/-- What work comes to on an engine whose time is over, beside what it comes to on one that is alike. Before it, code
was entered a number of times. -/
inductive Fate (kind : FailureClass) (before : Nat) :
    Except Failure α × Journal EngineState → Except Failure α × Journal EngineState → Prop where
  /-- Code is entered, and the work fails by an interruption. -/
  | interrupted {l : Journal EngineState} {other : Except Failure α × Journal EngineState}
      (hEntered : codes l.host.stages = before + 1) : Fate kind before (.error (interruption kind), l) other
  /-- No code is entered, and there is no difference. -/
  | spared {r : Except Failure α} {l m : Journal EngineState} (hQuiet : codes l.host.stages = before)
      (hOver : l.host.isOver = true) (hAlike : Alike l.host m.host) : Fate kind before (r, l) (r, m)

/-- Work that has come to code fails by an interruption. -/
theorem Fate.end_of_reached {kind : FailureClass} {before : Nat} {p q : Except Failure α × Journal EngineState}
    (hFate : Fate kind before p q) (hReached : before < codes p.2.host.stages) :
    p.1 = .error (interruption kind) := by
  cases hFate with
  | interrupted _ => rfl
  | spared hQuiet _ _ => exact absurd hReached (by simp [hQuiet])

/-- Work that has not come to code ends alike. -/
theorem Fate.same_of_unreached {kind : FailureClass} {before : Nat} {p q : Except Failure α × Journal EngineState}
    (hFate : Fate kind before p q) (hUnreached : ¬before < codes p.2.host.stages) :
    p.1 = q.1 ∧ Alike p.2.host q.2.host := by
  cases hFate with
  | interrupted hEntered => exact absurd (by simp [hEntered]) hUnreached
  | spared _ _ hAlike => exact ⟨rfl, hAlike⟩

theorem Fate.bind {kind : FailureClass} {before : Nat} {x : EngineJob α} {f : α → EngineJob β}
    {j k : Journal EngineState} (hx : Fate kind before (ending x j) (ending x k))
    (hf : ∀ a l m, codes l.host.stages = before → l.host.isOver = true → Alike l.host m.host →
      Fate kind before (ending (f a) l) (ending (f a) m)) :
    Fate kind before (ending (x >>= f) j) (ending (x >>= f) k) := by
  rw [ending_bind, ending_bind]
  generalize ending x j = p at hx ⊢
  generalize ending x k = q at hx ⊢
  cases hx with
  | interrupted hEntered => exact .interrupted hEntered
  | @spared r l m hQuiet hOver hAlike =>
      cases r with
      | ok a => exact hf a l m hQuiet hOver hAlike
      | error g => exact .spared hQuiet hOver hAlike

/-- A function of the host is halted only where the host cannot go on. -/
theorem failed_of_call {h : HostFunction} {env : Fixture} {type : FunctionType} {args : List Value} {m n : Machine}
    {g : Halt} (hCall : (h.call env type args).ending m = (.error g, n)) : ∃ f, g = .failed f := by
  unfold HostFunction.call at hCall
  dsimp only at hCall
  cases hLine : h.line? (args.map (Value.toDatum env.surroundings.reference)) with
  | error f =>
      rw [hLine] at hCall
      cases hCall
      exact ⟨f, rfl⟩
  | ok line =>
      rw [hLine] at hCall
      cases hResults : returned type.results (stubReturn type.results) with
      | ok vs =>
          rw [hResults] at hCall
          cases line <;> cases hCall
      | error f =>
          rw [hResults] at hCall
          cases line <;> cases hCall <;> exact ⟨f, rfl⟩

/-- Work that is interrupted where it comes to code, once the time is over, and goes on as ever where it does not. -/
def Doomed (kind : FailureClass) (job : EngineJob α) : Prop :=
  ∀ j k, j.host.isOver = true → Alike j.host k.host → Fate kind (codes j.host.stages) (ending job j) (ending job k)

namespace Doomed

variable {kind : FailureClass}

theorem bind {x : EngineJob α} {f : α → EngineJob β} (hx : Doomed kind x) (hf : ∀ a, Doomed kind (f a)) :
    Doomed kind (x >>= f) := by
  intro j k hOver hAlike
  refine (hx j k hOver hAlike).bind fun a l m hQuiet hLate hLater => ?_
  rw [← hQuiet]
  exact hf a l m hLate hLater

/-- Whatever engines that are alike have in common may be looked at. -/
theorem look {f : EngineState → EngineJob α} (hBlind : ∀ s t, Alike s t → f s = f t) (hf : ∀ s, Doomed kind (f s)) :
    Doomed kind (Job.host >>= f) := by
  intro j k hOver hAlike
  rw [ending_bind, ending_bind, ending_host, ending_host]
  dsimp only
  rw [← hBlind _ _ hAlike]
  exact hf j.host j k hOver hAlike

theorem onMachine (m : Machine) (act : Act α) : Doomed kind (onMachine m act) := by
  intro j k hOver hAlike
  rw [ending_onMachine, ending_onMachine, ← hAlike.lines]
  exact .spared rfl hOver (hAlike.withLines _)

theorem ofExcept (r : Except Failure α) : Doomed kind (Job.ofExcept r) := by
  intro j k hOver hAlike
  rw [ending_ofExcept, ending_ofExcept]
  exact .spared rfl hOver hAlike

theorem initially (m : Machine) (act : Act Unit) : Doomed kind (initially Trap.brief m act) := by
  refine (onMachine m act).bind fun p => ?_
  dsimp only
  split
  · exact ofExcept (.ok _)
  · exact ofExcept (.error _)

theorem timed {job : EngineJob α} (hJob : Doomed kind job) : Doomed kind (timed job) := by
  intro j k hOver hAlike
  have hStarted := hJob (j.hosting (j.host.noted .timerStarted)) (k.hosting (k.host.noted .timerStarted)) hOver
    (hAlike.noted rfl)
  rw [ending_timed, ending_timed, after, after]
  generalize ending job (j.hosting (j.host.noted .timerStarted)) = p at hStarted ⊢
  generalize ending job (k.hosting (k.host.noted .timerStarted)) = q at hStarted ⊢
  cases hStarted with
  | interrupted hEntered => exact .interrupted hEntered
  | spared hQuiet hLate hLater => exact .spared hQuiet hLate (hLater.noted rfl)

/-- Code is entered, and interrupted at once. A function of the host takes no time. -/
theorem callFunction (fixture : Fixture) (m : Machine) (c : Callee) (args : List Value) :
    Doomed kind (callFunction kind fixture m c args) := by
  intro j k hOver hAlike
  have hFuel : j.host.fuel = none := by simp [EngineState.fuel, hOver]
  rw [ending_callFunction, ending_callFunction, hFuel, ← hAlike.lines]
  cases c with
  | code b =>
      have hStopped : j.host.failureOf kind (.trap .interrupted) = interruption kind := by
        simp [EngineState.failureOf, hOver, haltFailure, interruption]
      change Fate kind _ (.error (j.host.failureOf kind (.trap .interrupted)), _) _
      rw [hStopped]
      exact .interrupted (List.countP_cons_of_pos rfl)
  | host h type =>
      have hInvoke (fuel : Nat) : (Act.invoke fixture fuel (.host h type) args).ending (m.withLines j.host.lines) =
          (h.call fixture type args).ending (m.withLines j.host.lines) := rfl
      rw [hInvoke, hInvoke]
      have hEntered : Alike (j.host.noted (.entered (.host h type))) (k.host.noted (.entered (.host h type))) :=
        hAlike.noted hAlike.isTimed
      rcases hCall : (h.call fixture type args).ending (m.withLines j.host.lines) with ⟨g | vs, n⟩
      · obtain ⟨f, rfl⟩ := failed_of_call hCall
        refine .spared rfl ?_
          ⟨hEntered.isOpen, hEntered.surroundings, hEntered.memoryLimit, rfl, hEntered.isTimed⟩
        rw [hOver]
        rfl
      · exact .spared rfl hOver (hEntered.withLines n.lines)

end Doomed

theorem Working.doomed {kind : FailureClass} {job : EngineJob α} (hJob : Working kind job) : Doomed kind job := by
  induction hJob with
  | pure a => exact .ofExcept (.ok a)
  | bind _ _ ihx ihf => exact ihx.bind ihf
  | fail _ => exact .ofExcept (.error _)
  | look hBlind _ ih => exact .look hBlind ih
  | log _ _ _ => exact fun _ _ hOver hAlike => .spared rfl hOver hAlike
  | write f =>
      intro j k hOver hAlike
      exact .spared rfl hOver
        ⟨hAlike.isOpen, hAlike.surroundings, hAlike.memoryLimit, congrArg f hAlike.lines, hAlike.isTimed⟩
  | make m _ => exact .initially m _
  | call fixture m c args => exact .callFunction fixture m c args
  | timed _ ih => exact ih.timed

/-- Whether a call comes to code of its module. -/
def Call.ReachesCode (c : Call) (j : Journal EngineState) : Prop :=
  codes j.host.stages < codes (after c.run j).host.stages

theorem codes_entry (f : Option Callee) (stages : List Stage) :
    codes (entry f ++ stages) = (f.bind Callee.body?).toList.length + codes stages := by
  cases f with
  | none => simp [entry]
  | some c => cases c <;> simp [entry, codes, List.countP_cons, Stage.entersCode, Callee.body?, Nat.add_comm]

section

variable {env : Surroundings} {limit fuel : Option Nat} {record : List Text} {j k : Journal EngineState} {l : Linked}
  {c : Call}

theorem codes_instantiate (hKeeps : Keeps env limit fuel record j.host) (hLinked : c.linked env = .ok l) :
    codes (ending (instantiate l) j).2.host.stages =
      (c.startCode? env limit).toList.length + codes j.host.stages := by
  have hStages := stages_instantiate hKeeps hLinked
  rw [after] at hStages
  rw [hStages, codes_entry]
  rfl

/-- Where a start function is code of the module, the making of the instance is interrupted in it. -/
theorem fate_started (hKeeps : Keeps env limit fuel record j.host) (hOver : j.host.isOver = true)
    (hLinked : c.linked env = .ok l) {b : Body} (hStart : c.startCode? env limit = some b)
    (other : Except Failure RunResult × Journal EngineState) :
    Fate .load (codes j.host.stages) (ending (l.job c) j) other := by
  have hCodes := codes_instantiate hKeeps hLinked
  have hFate := (working_instantiate l).doomed j j hOver ⟨rfl, rfl, rfl, rfl, rfl⟩
  rw [hStart] at hCodes
  rw [Linked.job, ending_bind]
  generalize ending (instantiate l) j = p at hFate hCodes ⊢
  cases hFate with
  | interrupted hEntered => exact .interrupted hEntered
  | spared hQuiet _ _ =>
      -- without code nothing would have been counted
      rw [hQuiet] at hCodes
      simp at hCodes

/-- Where it is not, the call is interrupted in the function that is invoked, or not at all. -/
theorem fate_unstarted (hKeeps : Keeps env limit fuel record j.host) (hOver : j.host.isOver = true)
    (hAlike : Alike j.host k.host) (hLinked : c.linked env = .ok l) (hStart : c.startCode? env limit = none) :
    Fate .evaluation (codes j.host.stages) (ending (l.job c) j) (ending (l.job c) k) := by
  have hCodes := codes_instantiate hKeeps hLinked
  have hFate := (working_instantiate l).doomed j k hOver hAlike
  have hMake : Fate .evaluation (codes j.host.stages) (ending (instantiate l) j) (ending (instantiate l) k) := by
    rw [hStart] at hCodes
    generalize ending (instantiate l) j = p at hFate hCodes ⊢
    generalize ending (instantiate l) k = q at hFate ⊢
    cases hFate with
    | interrupted hEntered =>
        rw [hEntered] at hCodes
        simp at hCodes
    | spared hQuiet hLate hLater => exact .spared hQuiet hLate hLater
  refine hMake.bind fun x m n hQuiet hLate hLater => ?_
  rw [← hQuiet]
  exact (working_job x c).doomed m n hLate hLater

/-- What becomes of any call: it is interrupted in the start function if that is code, and otherwise in the function
that it invokes, unless it comes to neither. -/
theorem fate_run (hKeeps : Keeps env limit fuel record j.host) (hOver : j.host.isOver = true)
    (hAlike : Alike j.host k.host) :
    Fate (if (c.startCode? env limit).isSome then .load else .evaluation) (codes j.host.stages)
      (ending c.run j) (ending c.run k) := by
  have hOpen := hKeeps.isOpen
  have hEnv := hKeeps.surroundings
  have hOther : k.host.isOpen = true := hAlike.isOpen.symm.trans hOpen
  have hOtherEnv : k.host.surroundings = env := hAlike.surroundings.symm.trans hEnv
  have hCompiled : Alike (j.host.noted .compiled) (k.host.noted .compiled) := hAlike.noted hAlike.isTimed
  cases c.approach env with
  | refused hLinked hRun =>
      rw [hRun hOpen hEnv, hRun hOther hOtherEnv]
      exact .spared rfl hOver hAlike
  | unlinked hLinked hRun =>
      rw [hRun hOpen hEnv, hRun hOther hOtherEnv]
      exact .spared rfl hOver hCompiled
  | linked hLinked hRun =>
      have hKept : Keeps env limit fuel record (j.host.noted .compiled) := hKeeps.staged hKeeps.isIdle
      rw [hRun hOpen hEnv, hRun hOther hOtherEnv]
      cases hStart : c.startCode? env limit with
      | some b => exact fate_started (j := j.hosting (j.host.noted .compiled)) hKept hOver hLinked hStart _
      | none =>
          exact fate_unstarted (j := j.hosting (j.host.noted .compiled))
            (k := k.hosting (k.host.noted .compiled)) hKept hOver hCompiled hLinked hStart

end

/-- Calls leave an engine on which the next one can be made. Once the time is over it stays so. -/
theorem keeps_afterAll {env : Surroundings} {limit fuel : Option Nat} {record : List Text} {j : Journal EngineState}
    (hKeeps : Keeps env limit fuel record j.host) (calls : List Call) :
    ∃ left later, Keeps env limit left later (Call.afterAll calls j).host ∧ (fuel = none → left = none) := by
  induction calls generalizing fuel record j with
  | nil => exact ⟨fuel, record, hKeeps, id⟩
  | cons c rest ih =>
      obtain ⟨later, hLater, -⟩ := run_course hKeeps c
      obtain ⟨left, last, hLast, hStays⟩ := ih hLater
      refine ⟨left, last, hLast, fun hNone => hStays ?_⟩
      rw [hNone]
      unfold Close.fuelLeft
      split <;> rfl

theorem fuel_eq_none_iff {s : EngineState} : s.fuel = none ↔ s.isOver = true := by
  cases hOver : s.isOver <;> simp [EngineState.fuel, hOver]

/-- An engine on which a call was interrupted stays interrupted. Whatever is called on it later, and after whatever
other calls: if it comes to code of its module it fails by an interruption, of its load if the start function is such
code and else of its evaluation. If it does not, it comes to what it comes to on any engine that has the same lines,
limit and surroundings, however much time that has. -/
theorem serve_interrupted (env : Surroundings) (limit : Option Nat) (steps : Nat) (logs : List LogRecord)
    (events : List EngineEvent) (earlier : List Call) (c : Call) {kind : FailureClass}
    (hInterrupted : (ending c.run (Call.afterAll earlier
      ⟨{ memoryLimit := limit, surroundings := env, steps := steps }, logs, events⟩)).1 =
        .error (interruption kind)) (between : List Call) (d : Call) :
    let j := Call.afterAll (earlier ++ c :: between)
      ⟨{ memoryLimit := limit, surroundings := env, steps := steps }, logs, events⟩
    (d.ReachesCode j → (ending d.run j).1 =
      .error (interruption (if (d.startCode? env limit).isSome then .load else .evaluation))) ∧
    (¬d.ReachesCode j → ∀ k : Journal EngineState, Alike j.host k.host →
      (ending d.run k).1 = (ending d.run j).1 ∧ (after d.run k).host.lines = (after d.run j).host.lines) := by
  intro j
  have hFresh : Keeps env limit (some steps) []
      { memoryLimit := limit, surroundings := env, steps := steps } := ⟨rfl, rfl, rfl, rfl, rfl, rfl⟩
  obtain ⟨left, record, hBefore, -⟩ := keeps_afterAll (j := ⟨_, logs, events⟩) hFresh earlier
  obtain ⟨later, hAfter, -⟩ := run_course hBefore c
  -- The interrupted call has left no time, and no call after it gives any back.
  have hTold := tells_run c _ kind hInterrupted
  rw [← hAfter.fuel, fuel_eq_none_iff.mpr hTold] at hAfter
  obtain ⟨last, record, hLast, hStays⟩ := keeps_afterAll hAfter between
  rw [hStays rfl] at hLast
  have hSplit : Call.afterAll between (after c.run (Call.afterAll earlier
      ⟨{ memoryLimit := limit, surroundings := env, steps := steps }, logs, events⟩)) = j := by
    change _ = List.foldl _ _ _
    rw [List.foldl_append]
    rfl
  rw [hSplit] at hLast
  have hOver := fuel_eq_none_iff.mp hLast.fuel
  constructor
  · intro hReaches
    have hFate := fate_run (c := d) (k := j) hLast hOver ⟨rfl, rfl, rfl, rfl, rfl⟩
    exact hFate.end_of_reached hReaches
  · intro hQuiet k hAlike
    obtain ⟨hEnds, hLater⟩ := (fate_run (c := d) hLast hOver hAlike).same_of_unreached hQuiet
    exact ⟨hEnds.symm, hLater.lines.symm⟩

/-- A module whose main function goes round for ever. -/
def spinningMain : Call where
  code := none
  bytes := some [0, 97, 115, 109, 1, 0, 0, 0, 1, 4, 1, 96, 0, 0, 3, 2, 1, 0, 7, 8, 1, 4, 109, 97, 105, 110, 0, 0,
    10, 9, 1, 7, 0, 3, 64, 12, 0, 11, 11]

/-- The failure that an end comes to. -/
def failure? (r : Except Failure α) : Option Failure :=
  match r with
  | .ok _ => none
  | .error f => some f

theorem eq_error_of_failure? {r : Except Failure α} {f : Failure} (hFailure : failure? r = some f) : r = .error f := by
  cases r with
  | ok a => cases hFailure
  | error g => rw [Option.some.inj hFailure]

/-- After a main function that goes round for ever was interrupted, a start function is interrupted, and the same main
function is once more. -/
theorem serve_interrupted_spinning :
    let j : Journal EngineState := ⟨{ surroundings := .small, steps := 5 }, [], []⟩
    let k := after spinningMain.run j
    (ending spinningMain.run j).1 = .error (interruption .evaluation) ∧
    (ending idlingStart.run k).1 = .error (interruption .load) ∧
    (ending spinningMain.run k).1 = .error (interruption .evaluation) := by
  intro j k
  have hInterrupted : (ending spinningMain.run j).1 = .error (interruption .evaluation) :=
    eq_error_of_failure? (by decide +kernel)
  have hLater := serve_interrupted .small none 5 [] [] [] spinningMain hInterrupted []
  refine ⟨hInterrupted, ?_, ?_⟩
  · have hReaches : idlingStart.ReachesCode k := by
      change codes _ < codes _
      decide +kernel
    have hStart : (idlingStart.startCode? .small none).isSome = true := by decide +kernel
    have hEnd := (hLater idlingStart).1 hReaches
    rw [if_pos hStart] at hEnd
    exact hEnd
  · have hReaches : spinningMain.ReachesCode k := by
      change codes _ < codes _
      decide +kernel
    have hStart : (spinningMain.startCode? .small none).isSome = false := by decide +kernel
    have hEnd := (hLater spinningMain).1 hReaches
    rw [if_neg (by rw [hStart]; exact Bool.false_ne_true)] at hEnd
    exact hEnd

end SnippetService.Wasm
