import SnippetService.Proofs.Wasm.Conduct
/-!
Every run of the engine for modules can be answered, if it comes to an end: whatever the module does, and whatever it is
given, the run gives a result without an error, or fails by a failure that is no shutdown, or does not come back.
-/
namespace SnippetService.Wasm

open Job

variable {α : Type}

/-- Surroundings that have little room. -/
def Surroundings.small : Surroundings := ⟨⟨10, 10, 10⟩, fun _ => "a function", 100⟩

theorem ending_onMachine (m : Machine) (act : Act α) (j : Journal EngineState) :
    Job.ending (onMachine m act) j =
      (.ok (act.ending { m with lines := j.host.lines }),
        j.hosting { j.host with lines := (act.ending { m with lines := j.host.lines }).2.lines }) := by
  simp only [onMachine, ending_bind, ending_host, Act.ending]
  cases act { m with lines := j.host.lines } <;> rfl

theorem endsIn_onMachine {F : Failure → Prop} (m : Machine) {act : Act α} (hAct : act.Composed) :
    (onMachine m act).EndsIn F fun p => Act.IsUnforeseen p.1 := by
  intro j
  rw [ending_onMachine]
  exact hAct.isUnforeseen _

theorem isUnhinted_haltFailure (c : FailureClass) (trapText : Trap → String) {h : Halt}
    (hUnforeseen : h.isUnforeseen = true) : (haltFailure c trapText h).isUnhinted = true := by
  cases h with
  | trap t => simp [haltFailure, Failure.isUnhinted]
  | failed f => exact f.isUnhinted_of_isUnforeseen hUnforeseen
  | stuck => rfl

/-- A failure without a hint, or code that does not come back. -/
def Unhinted (f : Failure) : Prop := f.isUnhinted = true ∨ f = unending

/-- A failure that can be answered in characters, or code that does not come back. -/
def Told (f : Failure) : Prop := f.isTellable = true ∨ f = unending

theorem Unhinted.hint?_eq_none {f : Failure} (hUnhinted : Unhinted f) : f.hint? = none := by
  rcases hUnhinted with hUnhinted | rfl
  · exact Failure.hint?_of_isUnhinted hUnhinted
  · rfl

theorem Unhinted.told {f : Failure} (hUnhinted : Unhinted f) : Told f :=
  hUnhinted.imp_left Failure.isTellable_of_isUnhinted

theorem ends_unhinted {P : α → Prop} {r : Except Failure α} (hr : Ends (fun f => f.isUnforeseen = true) P r) :
    Ends Unhinted P r :=
  hr.mono (fun _ hFailure => .inl (Failure.isUnhinted_of_isUnforeseen hFailure)) fun _ hValue => hValue

/-- Work that fails without a hint. -/
abbrev FailsUnhinted (job : EngineJob α) : Prop := job.EndsIn Unhinted fun _ => True

theorem unhinted_failureOf {s : EngineState} (kind : FailureClass) {h : Halt} (hUnforeseen : h.isUnforeseen = true) :
    Unhinted (s.failureOf kind h) := by
  unfold EngineState.failureOf
  split
  · exact .inr rfl
  · exact .inl (isUnhinted_haltFailure kind Trap.report hUnforeseen)

theorem unhinted_initially (trapText : Trap → String) (m : Machine) {act : Act Unit}
    (hAct : act.Composed) : FailsUnhinted (initially trapText m act) := by
  refine (endsIn_onMachine m hAct).bind fun p hUnforeseen => ?_
  rcases p with ⟨r, n⟩
  cases r with
  | ok u => exact .pure trivial
  | error h => exact .fail (.inl (isUnhinted_haltFailure .load trapText (hUnforeseen h rfl)))

namespace EngineState

variable (s : EngineState) (e : Stage)

@[simp]
theorem isOpen_noted : (s.noted e).isOpen = s.isOpen := rfl

@[simp]
theorem memoryLimit_noted : (s.noted e).memoryLimit = s.memoryLimit := rfl

@[simp]
theorem fuel_noted : (s.noted e).fuel = s.fuel := rfl

@[simp]
theorem lines_noted : (s.noted e).lines = s.lines := rfl

@[simp]
theorem surroundings_noted : (s.noted e).surroundings = s.surroundings := rfl

@[simp]
theorem isTimed_noted_compiled : (s.noted .compiled).isTimed = s.isTimed := rfl

@[simp]
theorem isTimed_noted_entered (c : Callee) : (s.noted (.entered c)).isTimed = s.isTimed := rfl

@[simp]
theorem isTimed_noted_timerStarted : (s.noted .timerStarted).isTimed = true := rfl

@[simp]
theorem isTimed_noted_timerCancelled : (s.noted .timerCancelled).isTimed = false := rfl

end EngineState

@[simp]
theorem ending_reach (e : Stage) (j : Journal EngineState) :
    Job.ending (reach e) j = (.ok (), j.hosting (j.host.noted e)) := rfl

/-- A function that is called from outside takes the steps that it is allowed. If the timer stops it, the time is
over. -/
theorem ending_callFunction (kind : FailureClass) (fixture : Fixture) (m : Machine) (c : Callee) (args : List Value)
    (j : Journal EngineState) :
    Job.ending (callFunction kind fixture m c args) j =
      match (Act.invoke fixture (allowance fixture.surroundings.patience j.host.isTimed j.host.fuel) c args).ending
          (m.withLines j.host.lines) with
      | (.ok vs, n) => (.ok (vs, n), j.hosting { j.host.noted (.entered c) with lines := n.lines })
      | (.error h, n) => (.error (j.host.failureOf kind h), j.hosting { j.host.noted (.entered c) with
          lines := n.lines, isOver := j.host.isOver || (h.isTimeout && j.host.isTimed) }) := by
  simp only [callFunction, ending_bind, ending_reach, ending_host, ending_onMachine, Journal.hosting_host,
    EngineState.lines_noted, Machine.withLines]
  rcases (Act.invoke fixture _ c args).ending _ with ⟨h | vs, n⟩
  · dsimp only
    cases h.isTimeout && j.host.isTimed with
    | true =>
        rw [if_pos rfl, Bool.or_true]
        rfl
    | false =>
        rw [if_neg Bool.false_ne_true, Bool.or_false]
        rfl
  · rfl

section

variable {m : Machine} {j : Journal EngineState}

/-- Where no timer runs, time goes by unnoticed. -/
theorem ending_callFunction_idle (kind : FailureClass) (fixture : Fixture) (c : Callee) (args : List Value)
    (hIdle : j.host.isTimed = false) (hLines : m.lines = j.host.lines) :
    Job.ending (callFunction kind fixture m c args) j =
      match (Act.invoke fixture (allowance fixture.surroundings.patience false j.host.fuel) c args).ending m with
      | (.ok vs, n) => (.ok (vs, n), j.hosting { j.host.noted (.entered c) with lines := n.lines })
      | (.error h, n) =>
        (.error (j.host.failureOf kind h), j.hosting { j.host.noted (.entered c) with lines := n.lines }) := by
  have hSame : m.withLines j.host.lines = m := by rw [← hLines]; rfl
  simp only [ending_callFunction, hIdle, hSame, Bool.and_false, Bool.or_false]
  rfl

theorem ending_callFunction_timed (kind : FailureClass) (fixture : Fixture) (c : Callee) (args : List Value)
    (hTimed : j.host.isTimed = true) (hLines : m.lines = j.host.lines) :
    Job.ending (callFunction kind fixture m c args) j =
      match (Act.invoke fixture (allowance fixture.surroundings.patience true j.host.fuel) c args).ending m with
      | (.ok vs, n) => (.ok (vs, n), j.hosting { j.host.noted (.entered c) with lines := n.lines })
      | (.error h, n) => (.error (j.host.failureOf kind h), j.hosting { j.host.noted (.entered c) with
          lines := n.lines, isOver := j.host.isOver || h.isTimeout }) := by
  have hSame : m.withLines j.host.lines = m := by rw [← hLines]; rfl
  simp only [ending_callFunction, hTimed, hSame, Bool.and_true]

end

theorem unhinted_callFunction (kind : FailureClass) (fixture : Fixture) (m : Machine) (c : Callee)
    (args : List Value) : FailsUnhinted (callFunction kind fixture m c args) := by
  intro j
  rw [ending_callFunction]
  generalize allowance fixture.surroundings.patience j.host.isTimed j.host.fuel = steps
  have hUnforeseen := (Act.Composed.invoke fixture steps c args).isUnforeseen (m.withLines j.host.lines)
  rcases hRun : (Act.invoke fixture steps c args).ending (m.withLines j.host.lines) with ⟨h | vs, n⟩
  · rw [hRun] at hUnforeseen
    exact unhinted_failureOf kind (hUnforeseen h rfl)
  · exact trivial

/-- Work for which the timer runs comes to what it comes to; the timer is cancelled behind it. -/
theorem ending_timed (job : EngineJob α) (j : Journal EngineState) :
    Job.ending (timed job) j =
      ((Job.ending job (j.hosting (j.host.noted .timerStarted))).1,
        (Job.after job (j.hosting (j.host.noted .timerStarted))).hosting
          ((Job.after job (j.hosting (j.host.noted .timerStarted))).host.noted .timerCancelled)) := by
  simp only [timed, ending_bind, ending_reach, ending_outcome, ending_ofExcept]

theorem endsIn_timed {F : Failure → Prop} {P : α → Prop} {job : EngineJob α} (hJob : job.EndsIn F P) :
    (timed job).EndsIn F P := by
  intro j
  rw [ending_timed]
  exact hJob _

/-- The making of an instance fails without a hint, and an instance offers what its module exports. -/
theorem endsIn_instantiate (l : Linked) :
    (instantiate l).EndsIn Unhinted fun x => x.functions = l.exports := by
  refine EndsIn.host.bind fun s _ => ?_
  dsimp only
  split
  · exact .fail (.inl (by simp [loadFailure, Failure.isUnhinted]))
  · refine (unhinted_initially _ _ (Act.Composed.setUp _)).bind fun m _ => ?_
    split
    · exact .pure rfl
    · exact (unhinted_callFunction _ _ _ _ _).bind fun _ _ => .pure rfl

theorem unhinted_invoke (x : Instance) (c : Callee) (args : List Value) : FailsUnhinted (invoke x c args) :=
  (unhinted_callFunction _ _ _ _ _).bind fun _ _ => .pure trivial

theorem unhinted_invokePlain (x : Instance) (c : Callee) : FailsUnhinted (invokePlain x c) := by
  unfold invokePlain
  dsimp only
  split
  · exact unhinted_invoke x c []
  · exact .fail (.inl (by simp [Failure.isUnhinted]))

theorem unforeseen_arguments (ds : List Datum) (ts : List ValueType) :
    Unforeseen (arguments ds ts) :=
  (Ends.mapM (fun (d, t) => unforeseen_coerce d t) _).bind fun _ _ =>
    Ends.mapM (fun (d, t) => unforeseen_argument d t) _

/-- A call with as many arguments as there are parameters fails without a hint. -/
theorem unhinted_callNamed (x : Instance) (name : String) (c : Callee) {args : List Datum}
    (hCount : args.length = c.type.params.length) : FailsUnhinted (callNamed x name c args) := by
  unfold callNamed
  dsimp only
  rw [if_neg (by simpa using hCount)]
  exact (EndsIn.ofExcept (ends_unhinted (unforeseen_arguments _ _))).bind fun _ _ =>
    (unhinted_invoke x c _).bind fun _ _ =>
      (EndsIn.ofExcept (ends_unhinted (Ends.mapM unforeseen_formatNumber _))).bind fun _ _ =>
        (EndsIn.log _ _ _).bind fun _ _ =>
          (EndsIn.ofExcept (ends_unhinted (unforeseen_formatNumber _))).bind fun _ _ => EndsIn.modifyHost _

/-- Whether a named function is given another number of arguments than it has parameters. -/
def EntryPoint.IsMiscounted (args : List Datum) : EntryPoint → Prop
  | .named _ c => args.length ≠ c.type.params.length
  | _ => False

/-- Whatever is entered fails without a hint, unless the arguments are miscounted. -/
theorem unhinted_enter (x : Instance) {args : List Datum} {e : EntryPoint} (hCount : ¬ e.IsMiscounted args) :
    FailsUnhinted (enter x args e) := by
  cases e with
  | named name c => exact unhinted_callNamed x name c (Decidable.not_not.mp hCount)
  | start c => exact (unhinted_invokePlain x c).bind fun _ _ => EndsIn.modifyHost _
  | main c =>
      exact (unhinted_invokePlain x c).bind fun _ _ =>
        (EndsIn.ofExcept (ends_unhinted (unforeseen_formatNumber _))).bind fun _ _ => EndsIn.modifyHost _
  | listing => exact fun _ => trivial

theorem told_enter (x : Instance) (args : List Datum) (e : EntryPoint) :
    (enter x args e).EndsIn Told fun _ => True := by
  by_cases hCount : e.IsMiscounted args
  · cases e with
    | named name c =>
        rw [enter, callNamed, if_pos (bne_iff_ne.mpr hCount)]
        exact .fail (.inl (by simp [Failure.isTellable]))
    | _ => exact hCount.elim
  · exact (unhinted_enter x hCount).mono (fun _ => Unhinted.told) fun _ _ => trivial

theorem told_classify (code : Option Text) (bytes : Option Bytes) :
    Ends Told (fun _ => True) (classify code bytes) := by
  unfold classify
  split
  · split <;> exact .inl rfl
  · split <;> exact .inl rfl
  · split
    · exact trivial
    · exact .inl rfl

theorem told_callee (types : List FunctionType) (i : Import) : Ends Told (fun _ => True) (i.callee types) := by
  unfold Import.callee
  split
  · split
    · exact trivial
    · exact .inl rfl
  · exact .inl (by simp [Failure.isTellable])

/-- A result without an error and without rich results. -/
def IsPlain (r : RunResult) : Prop := r.error = .null ∧ r.results = none

theorem told_execute (code : Option Text) (bytes : Option Bytes) (entryPoint : Option Text)
    (args : List Datum) : (execute code bytes entryPoint args).EndsIn Told IsPlain := by
  refine EndsIn.host.bind fun s _ => ?_
  split
  · exact .fail (.inl rfl)
  · refine (EndsIn.ofExcept (told_classify code bytes)).bind fun binary _ =>
      (EndsIn.modifyHost _).bind fun _ _ => EndsIn.host.bind fun _ _ => ?_
    dsimp only
    split
    · exact .fail (.inl (by simp [loadFailure, Failure.isTellable]))
    · exact (EndsIn.ofExcept (Ends.mapM (told_callee _) _)).bind fun host _ =>
        ((endsIn_instantiate _).mono (fun _ => Unhinted.told) fun _ hMade => hMade).bind fun x _ =>
          (endsIn_timed (told_enter x args _)).bind fun _ _ => EndsIn.host.bind fun _ _ => .pure ⟨rfl, rfl⟩

theorem told_decodeSubmission (s : Text) : Ends Told (fun _ => True) (decodeSubmission s) := by
  unfold decodeSubmission
  split
  · exact trivial
  · exact .inl rfl

theorem told_decodeOption (d : Datum) : Ends Told (fun _ => True) (decodeOption d) := by
  cases d with
  | text s => exact told_decodeSubmission s
  | bytes data =>
      simp only [decodeOption]
      split
      · exact told_decodeSubmission ""
      · exact .inl rfl
  | _ => exact .inl (by simp [Failure.isTellable])

/-- A call of the executor of modules runs on its engine as on no other, so its end is of the same kind. -/
theorem told_run (build : Job EngineState (Engine EngineState)) (code : Option Text)
    (options : Options) : ((executor build).run engine code options).EndsIn Told IsPlain := by
  refine EndsIn.bind (P := fun _ => True) (EndsIn.ofExcept ?_) fun bytes _ =>
    (EndsIn.tell _).bind fun _ _ => told_execute code bytes _ _
  cases encodedOption options with
  | none => exact trivial
  | some d => exact (told_decodeOption d).bind fun _ _ => trivial

end SnippetService.Wasm
