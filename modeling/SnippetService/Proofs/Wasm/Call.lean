import SnippetService.Proofs.Wasm.Engine
import SnippetService.Proofs.Wasm.Exports
/-!
One call of an engine for modules. What it prints and how it ends is told first without an engine, from the call, the
limits and a machine; then the engine is shown to do the same, on the lines that it has kept.
-/
namespace SnippetService.Wasm

open Job

/-- A call of an engine. -/
structure Call where
  code : Option Text
  bytes : Option Bytes
  entryPoint : Option Text := none
  args : List Datum := []

/-- The call as work of an engine. -/
def Call.run (c : Call) : EngineJob RunResult := execute c.code c.bytes c.entryPoint c.args

/-- The program that bytes describe, linked with the host. -/
def linkedOf (env : Surroundings) (binary : Bytes) : Except Failure Linked :=
  match Program.load env.bounds binary with
  | .error f => .error (loadFailure f.message)
  | .ok p => p.module.hostFunctions.map (p.link env)

/-- The program of a call, linked with the host. -/
def Call.linked (c : Call) (env : Surroundings) : Except Failure Linked :=
  classify c.code c.bytes >>= linkedOf env

/-- How a call ends. -/
inductive Close where
  /-- A function was invoked and has returned; it leaves a final line. -/
  | line (text : Text)
  /-- Nothing could be invoked; the exported functions are listed. -/
  | listing (names : List String)
  /-- The call fails. The last call is one that takes more time than there is. -/
  | failure (isLast : Bool)

/-- The state of an engine on which a function was called, if there is one. -/
def EngineState.visited (s : EngineState) (f : Option Callee) : EngineState :=
  f.elim s fun c => s.noted (.entered c)

/-- The lines that a machine has printed, the earliest first. -/
def Machine.printed (m : Machine) : List Text := m.lines.reverse

/-- What is shown of the results of a function, by their number: a word for none, a single one as a number, and more of
them as a list. How a reference to a function is shown is up to the host. -/
def shownResults (reference : Nat → String) : List Value → Except Failure Text
  | [] => .ok "undefined"
  | [v] => formatNumber (v.toDatum reference)
  | vs => .ok ("[" ++ Text.join ", " (vs.map fun v => (v.toDatum reference).shown) ++ "]")

theorem shownItems_eq (ds : List Datum) : Datum.shownItems ds = ds.map Datum.shown := by
  induction ds with
  | nil => rfl
  | cons d rest ih => rw [Datum.shownItems, ih, List.map_cons]

/-- The engine shows results in this way. -/
theorem formatNumber_resultDatum (reference : Nat → String) (results : List Value) :
    formatNumber (resultDatum reference results) = shownResults reference results := by
  match results with
  | [] => rfl
  | [v] => rfl
  | v :: w :: rest =>
      simp only [resultDatum, formatNumber, shownResults, Datum.display, Datum.shown, shownItems_eq, List.map_map]
      rfl

namespace Role

/-- The values on which a function is invoked, if the arguments of a call fit it. Only a function that was asked for
takes arguments. -/
def values? (args : List Datum) (params : List ValueType) : Role → Option (List Value)
  | named _ => if args.length = params.length then (arguments args params).toOption else none
  | start | main => if params = [] then some [] else none

/-- The line that a function leaves when it has returned. -/
def finalLine (reference : Nat → String) (args : List Datum) (results : List Value) : Role → Except Failure Text
  | named name => do
    let shown ← args.mapM formatNumber
    let answer ← shownResults reference results
    return name ++ "(" ++ Text.join ", " shown ++ ") = " ++ answer
  | start => return "WASM module executed (_start)"
  | main => do
    let answer ← shownResults reference results
    return "main() = " ++ answer

end Role

namespace Linked

/-- The machine of a program before anything has run on it. -/
def blank (l : Linked) (bounds : Bounds) (limit : Option Nat) : Except String Machine := do
  let memories ← l.program.module.memories.mapM (Memory.ofType limit)
  return { memories := memories.toArray, tables := (l.program.module.tables.map (Elements.ofType bounds)).toArray }

/-- The making of an instance, with its start function, for which no timer runs. -/
def start (l : Linked) (fuel : Option Nat) : Act Unit := do
  Act.setUp l.program.module
  match l.start? with
  | none => return
  | some c => do
    let _ ← Act.invoke l.fixture (allowance l.fixture.surroundings.patience false fuel) c []

/-- The start function, if the making of an instance comes to it. -/
def called? (l : Linked) (m : Machine) : Option Callee :=
  match (Act.setUp l.program.module).ending m with
  | (.ok (), _) => l.start?
  | (.error _, _) => none

/-- Invoke a function of an instance while the timer runs. -/
def invoked (l : Linked) (fuel : Option Nat) (args : List Datum) (r : Role) (c : Callee) (m : Machine) :
    Close × Machine :=
  match r.values? args c.type.params with
  | none => (.failure false, m)
  | some values =>
    match (Act.invoke l.fixture (allowance l.fixture.surroundings.patience true fuel) c values).ending m with
    | (.error h, n) => (.failure h.isTimeout, n)
    | (.ok results, n) =>
      match r.finalLine l.fixture.surroundings.reference args results with
      | .error _ => (.failure false, n)
      | .ok text => (.line text, n)

/-- The function that is chosen for a call, with the part that it plays. -/
def target? (l : Linked) (c : Call) : Option (Role × Callee) :=
  (Role.chosen l.program.module.functionNames c.entryPoint).bind fun r =>
    (l.exports.lookup r.name).map fun f => (r, f)

/-- The function that is invoked, if one is chosen and the arguments fit it. -/
def invoked? (l : Linked) (c : Call) : Option Callee :=
  (l.target? c).bind fun (r, f) => (r.values? c.args f.type.params).map fun _ => f

/-- Run an instance: invoke the function that is chosen, or list what is exported. -/
def entered (l : Linked) (fuel : Option Nat) (c : Call) (m : Machine) : Close × Machine :=
  match l.target? c with
  | some (r, f) => l.invoked fuel c.args r f m
  | none => (.listing l.program.module.functionNames, m)

end Linked

/-- What a call comes to on an engine that has no record, and what is printed meanwhile. -/
def Call.alone (c : Call) (env : Surroundings) (limit : Option Nat) (fuel : Option Nat) : Close × List Text :=
  match c.linked env with
  | .error _ => (.failure false, [])
  | .ok l =>
    match l.blank env.bounds limit with
    | .error _ => (.failure false, [])
    | .ok m =>
      match (l.start fuel).ending m with
      | (.error _, n) => (.failure false, n.printed)
      | (.ok (), n) => ((l.entered fuel c n).1, (l.entered fuel c n).2.printed)

/-- The result of a call that succeeds. -/
def finished (output : Text) : RunResult :=
  { success := true, output := some output, error := .null, runtime := runtime }

/-- A call on an open engine, once an instance is made. -/
def Instance.job (x : Instance) (c : Call) : EngineJob RunResult := do
  timed (enter x c.args (.choose x.functions c.entryPoint))
  let output : Text := (← Job.host).lines.reverse.flatten
  return finished (orElseText output noOutput)

/-- A call on an open engine, once its program is linked. -/
def Linked.job (l : Linked) (c : Call) : EngineJob RunResult := do
  let x ← instantiate l
  x.job c

/-- What an engine does with bytes that are compiled. -/
def compiling (binary : Bytes) (entryPoint : Option Text) (args : List Datum) : EngineJob RunResult := do
  reach .compiled
  let l ← Job.ofExcept (linkedOf (← Job.host).surroundings binary)
  l.job { code := none, bytes := some binary, entryPoint := entryPoint, args := args }

section

variable {c : Call} {l : Linked} {j : Journal EngineState}

/-- A call on an open engine fails if it carries no module, and otherwise goes on with the bytes. -/
theorem ending_run (hOpen : j.host.isOpen = true) :
    ending c.run j =
      ending (Job.ofExcept (classify c.code c.bytes) >>= fun binary => compiling binary c.entryPoint c.args) j := by
  unfold Call.run execute
  simp only [ending_bind, ending_host, hOpen, Bool.not_true, Bool.false_eq_true, ↓reduceIte,
    ending_ofExcept]
  cases classify c.code c.bytes with
  | error f => rfl
  | ok binary =>
      simp only [compiling, linkedOf, ending_bind, ending_reach, ending_host, ending_ofExcept]
      cases Program.load _ binary with
      | error f => rfl
      | ok p =>
          simp only [ending_bind, ending_ofExcept]
          cases p.module.hostFunctions with
          | error f => rfl
          | ok host => simp only [Except.map, Linked.job, Instance.job, finished, ending_bind, ending_host]

/-- How far a call gets on an open engine before its program is at work, and how it goes on from there. -/
inductive Approach (c : Call) (env : Surroundings) : Prop where
  /-- There is no module in it. -/
  | refused {f : Failure} (hLinked : c.linked env = .error f)
      (hRun : ∀ {j : Journal EngineState}, j.host.isOpen = true → j.host.surroundings = env →
        ending c.run j = (.error f, j))
  /-- Its module is compiled, and cannot be linked. -/
  | unlinked {f : Failure} (hLinked : c.linked env = .error f)
      (hRun : ∀ {j : Journal EngineState}, j.host.isOpen = true → j.host.surroundings = env →
        ending c.run j = (.error f, j.hosting (j.host.noted .compiled)))
  | linked {l : Linked} (hLinked : c.linked env = .ok l)
      (hRun : ∀ {j : Journal EngineState}, j.host.isOpen = true → j.host.surroundings = env →
        ending c.run j = ending (l.job c) (j.hosting (j.host.noted .compiled)))

theorem Call.approach (c : Call) (env : Surroundings) : Approach c env := by
  cases hClass : classify c.code c.bytes with
  | error f =>
      refine .refused (f := f) (by rw [Call.linked, hClass]; rfl) fun hOpen _ => ?_
      rw [ending_run hOpen, hClass]
      rfl
  | ok binary =>
      have hCall : c.linked env = linkedOf env binary := by
        rw [Call.linked, hClass]
        rfl
      cases hLinked : linkedOf env binary with
      | error f =>
          refine .unlinked (hCall.trans hLinked) fun hOpen hEnv => ?_
          rw [ending_run hOpen, hClass, ending_bind, ending_ofExcept]
          simp only [compiling, ending_bind, ending_reach, ending_host, Journal.hosting_host,
            EngineState.surroundings_noted, hEnv, hLinked]
          rfl
      | ok l =>
          refine .linked (hCall.trans hLinked) fun hOpen hEnv => ?_
          rw [ending_run hOpen, hClass, ending_bind, ending_ofExcept]
          simp only [compiling, ending_bind, ending_reach, ending_host, Journal.hosting_host,
            EngineState.surroundings_noted, hEnv, hLinked]
          rfl

theorem classified_of_linked {env : Surroundings} (hLinked : c.linked env = .ok l) :
    ∃ binary, classify c.code c.bytes = .ok binary ∧ linkedOf env binary = .ok l := by
  unfold Call.linked at hLinked
  cases hClass : classify c.code c.bytes with
  | error f =>
      rw [hClass] at hLinked
      cases hLinked
  | ok binary =>
      rw [hClass] at hLinked
      exact ⟨binary, rfl, hLinked⟩

/-- The program of a call offers the functions that its module exports. -/
theorem names_linked {env : Surroundings} (hLinked : c.linked env = .ok l) :
    l.exports.map (·.1) = l.program.module.functionNames := by
  obtain ⟨binary, -, hLinked⟩ := classified_of_linked hLinked
  unfold linkedOf at hLinked
  cases hLoad : Program.load env.bounds binary with
  | error f => simp [hLoad] at hLinked
  | ok p =>
      cases hHost : p.module.hostFunctions with
      | error f => simp [hLoad, hHost, Except.map] at hLinked
      | ok host =>
          simp only [hLoad, hHost, Except.map, Except.ok.injEq] at hLinked
          rw [← hLinked]
          exact names_exports hLoad hHost env

/-- Part of the making of an instance goes on with the machine that it leaves, or fails. -/
theorem ending_initially (trapText : Trap → String) (m : Machine) (act : Act Unit) :
    ending (initially trapText m act) j =
      match act.ending (m.withLines j.host.lines) with
      | (.ok (), n) => (.ok n, j.hosting { j.host with lines := n.lines })
      | (.error h, n) =>
        (.error (haltFailure .load trapText h), j.hosting { j.host with lines := n.lines }) := by
  rw [initially, ending_bind, ending_onMachine, Machine.withLines]
  rcases act.ending { m with lines := j.host.lines } with ⟨_ | _, n⟩ <;> rfl

theorem blank_lines {bounds : Bounds} {limit : Option Nat} {m : Machine} (hBlank : l.blank bounds limit = .ok m) :
    m.lines = [] := by
  unfold Linked.blank at hBlank
  cases hMemories : l.program.module.memories.mapM (Memory.ofType limit) with
  | error message =>
      rw [hMemories] at hBlank
      cases hBlank
  | ok memories =>
      rw [hMemories] at hBlank
      cases hBlank
      rfl

theorem ending_instantiate_refused {message : String}
    (hBlank : l.blank j.host.surroundings.bounds j.host.memoryLimit = .error message) :
    ending (instantiate l) j = (.error (loadFailure message), j) := by
  unfold Linked.blank at hBlank
  simp only [instantiate, ending_bind, ending_host]
  cases hMemories : l.program.module.memories.mapM (Memory.ofType j.host.memoryLimit) with
  | error text =>
      rw [hMemories] at hBlank
      cases hBlank
      rfl
  | ok memories =>
      rw [hMemories] at hBlank
      cases hBlank

/-- Earlier lines make no difference to whether the start function is called. -/
theorem called?_following (m : Machine) (earlier : List Text) :
    l.called? (m.following earlier) = l.called? m := by
  unfold Linked.called?
  rw [(Act.Composed.setUp l.program.module).steady m earlier]
  rcases (Act.setUp l.program.module).ending m with ⟨_ | _, n⟩ <;> rfl

/-- An instance is made on the machine that is blank but for the lines that the engine has kept. Its start function is
entered if the making comes to it. -/
theorem ending_instantiate_blank {m : Machine} (hBlank : l.blank j.host.surroundings.bounds j.host.memoryLimit = .ok m)
    (hIdle : j.host.isTimed = false) :
    match (l.start j.host.fuel).ending (m.withLines j.host.lines) with
    | (.ok (), n) => ending (instantiate l) j =
        (.ok ⟨l.fixture, n, l.exports⟩, j.hosting { j.host.visited (l.called? m) with lines := n.lines })
    | (.error _, n) => ∃ f, ending (instantiate l) j =
        (.error f, j.hosting { j.host.visited (l.called? m) with lines := n.lines }) := by
  have hCalled := called?_following (l := l) m j.host.lines
  rw [Machine.following, blank_lines hBlank, List.nil_append] at hCalled
  unfold Linked.called? at hCalled ⊢
  unfold Linked.blank at hBlank
  simp only [instantiate, Linked.start, ending_bind, ending_host, Act.ending_bind]
  cases hMemories : l.program.module.memories.mapM (Memory.ofType j.host.memoryLimit) with
  | error message =>
      rw [hMemories] at hBlank
      cases hBlank
  | ok memories =>
      rw [hMemories] at hBlank
      cases hBlank
      simp only [ending_bind, ending_initially]
      rw [← hCalled]
      rcases (Act.setUp l.program.module).ending _ with ⟨_ | _, n⟩
      · exact ⟨_, rfl⟩
      · dsimp only
        cases l.start? with
        | none => rfl
        | some c =>
            have hCall := ending_callFunction_idle .load l.fixture c []
              (j := j.hosting { j.host with lines := n.lines }) (m := n) hIdle rfl
            simp only [ending_bind, Act.ending_bind, hCall]
            dsimp only [Journal.hosting_host, EngineState.fuel]
            rcases (Act.invoke l.fixture _ c []).ending n with ⟨_ | _, o⟩
            · exact ⟨_, rfl⟩
            · rfl

/-- An instance that is made has what its program has, and the lines of its engine. -/
theorem of_made {x : Instance} {k : Journal EngineState} (hIdle : j.host.isTimed = false)
    (hMade : ending (instantiate l) j = (.ok x, k)) :
    x.fixture = l.fixture ∧ x.functions = l.exports ∧ x.machine.lines = k.host.lines := by
  cases hBlank : l.blank j.host.surroundings.bounds j.host.memoryLimit with
  | error message =>
      rw [ending_instantiate_refused hBlank] at hMade
      cases hMade
  | ok m =>
      have hInstance := ending_instantiate_blank hBlank hIdle
      rcases hStart : (l.start j.host.fuel).ending (m.withLines j.host.lines) with ⟨h | u, n⟩
      · rw [hStart] at hInstance
        obtain ⟨f, hFails⟩ := hInstance
        cases hFails.symm.trans hMade
      · rw [hStart] at hInstance
        cases hInstance.symm.trans hMade
        exact ⟨rfl, rfl, rfl⟩

/-- That bytes have been compiled makes no difference to the instance that is made of them. -/
theorem made_compiled_iff (hIdle : j.host.isTimed = false) (x : Instance) :
    (ending (instantiate l) (j.hosting (j.host.noted .compiled))).1 = .ok x ↔
      (ending (instantiate l) j).1 = .ok x := by
  cases hBlank : l.blank j.host.surroundings.bounds j.host.memoryLimit with
  | error message =>
      rw [ending_instantiate_refused hBlank,
        ending_instantiate_refused (j := j.hosting (j.host.noted .compiled)) hBlank]
  | ok m =>
      have hPlain := ending_instantiate_blank hBlank hIdle
      have hCompiled := ending_instantiate_blank (j := j.hosting (j.host.noted .compiled)) hBlank hIdle
      rw [Journal.hosting_host, EngineState.fuel_noted, EngineState.lines_noted] at hCompiled
      rcases hStart : (l.start j.host.fuel).ending (m.withLines j.host.lines) with ⟨h | u, n⟩
      · rw [hStart] at hPlain hCompiled
        obtain ⟨f, hPlain⟩ := hPlain
        obtain ⟨g, hCompiled⟩ := hCompiled
        rw [hPlain, hCompiled]
        exact iff_of_false nofun nofun
      · rw [hStart] at hPlain hCompiled
        dsimp only at hPlain hCompiled
        rw [hPlain, hCompiled]

/-- The work on an instance closes in a certain way and leaves the output lines of a machine. -/
inductive Closes (s : EngineState) : Close × Machine → Except Failure Unit × EngineState → Prop where
  | line (text : Text) (m : Machine) :
      Closes s (.line text, m) (.ok (), { s with lines := text :: m.lines })
  | listing (names : List String) (m : Machine) :
      Closes s (.listing names, m) (.ok (), { s with lines := [exportsLine names] })
  | failure (isLast : Bool) (f : Failure) (m : Machine) :
      Closes s (.failure isLast, m) (.error f, { s with lines := m.lines, isOver := s.isOver || isLast })

/-- A failure that leaves the engine some time. -/
theorem Closes.failed {s : EngineState} (f : Failure) (m : Machine) :
    Closes s (.failure false, m) (.error f, { s with lines := m.lines }) := by
  have hClose := Closes.failure (s := s) false f m
  rwa [Bool.or_false] at hClose

/-- How the work closes is all the same to what happens to the engine then. -/
theorem Closes.noted {s t : EngineState} {p : Close × Machine} {r : Except Failure Unit} (hCloses : Closes s p (r, t))
    (e : Stage) : Closes (s.noted e) p (r, t.noted e) := by
  cases hCloses with
  | line text m => exact .line text m
  | listing names m => exact .listing names m
  | failure isLast f m => exact .failure isLast f m

theorem Closes.stages_eq {s t : EngineState} {p : Close × Machine} {r : Except Failure Unit}
    (hCloses : Closes s p (r, t)) : t.stages = s.stages := by
  cases hCloses <;> rfl

/-- An invocation on a machine that has the lines of the engine. -/
theorem ending_invoke (x : Instance) (f : Callee) (values : List Value) (hTimed : j.host.isTimed = true)
    (hLines : x.machine.lines = j.host.lines) :
    match (Act.invoke x.fixture (allowance x.fixture.surroundings.patience true j.host.fuel) f values).ending
      x.machine with
    | (.ok results, n) => ending (invoke x f values) j =
        (.ok results, j.hosting { j.host.noted (.entered f) with lines := n.lines })
    | (.error h, n) => ending (invoke x f values) j =
        (.error (j.host.failureOf .evaluation h), j.hosting { j.host.noted (.entered f) with
          lines := n.lines, isOver := j.host.isOver || h.isTimeout }) := by
  simp only [invoke, ending_bind, ending_callFunction_timed .evaluation x.fixture f values hTimed hLines]
  rcases (Act.invoke x.fixture _ f values).ending x.machine with ⟨_ | _, n⟩ <;> rfl

/-- Work that adds a line, or fails and adds none. -/
def Leaves (line : Except Failure Text) (job : EngineJob Unit) : Prop :=
  ∀ k, match line with
    | .ok text => (ending job k).1 = .ok () ∧
        (after job k).host = { k.host with lines := text :: k.host.lines }
    | .error _ => (∃ g, (ending job k).1 = .error g) ∧ (after job k).host = k.host

theorem Leaves.logged {line : Except Failure Text} {job : EngineJob Unit} {level : LogLevel}
    {area : LogArea} {message : Text} (hJob : Leaves line job) :
    Leaves line (Job.log level area message >>= fun _ => job) := by
  intro k
  have hLater := hJob (k.logged [⟨level, area, message⟩])
  cases line <;> exact hLater

/-- Work that leaves a line does so behind what cannot fail to be had. -/
theorem Leaves.bind {α : Type} {a : Except Failure α} {next : α → Except Failure Text}
    {tail : α → EngineJob Unit} (hNext : ∀ v, Leaves (next v) (tail v)) :
    Leaves (a >>= next) (Job.ofExcept a >>= tail) := by
  intro k
  cases a with
  | error f => exact ⟨⟨f, rfl⟩, rfl⟩
  | ok v => exact hNext v k

theorem leaves_printLine (text : Text) : Leaves (.ok text) (printLine text) := fun _ => ⟨rfl, rfl⟩

/-- A function whose arguments do not fit is not invoked. -/
theorem closes_unfit {m : Machine} {args : List Datum} {r : Role} {f : Callee} {g : Failure}
    (hValues : r.values? args f.type.params = none) (hLines : m.lines = j.host.lines) :
    Closes j.host (l.invoked j.host.fuel args r f m) (.error g, j.host) := by
  have hClose := Closes.failed (s := j.host) g m
  have hKept : { j.host with lines := m.lines } = j.host := by rw [hLines]
  rw [hKept] at hClose
  simpa only [Linked.invoked, hValues] using hClose

/-- A function is invoked on the values of its arguments, and the work behind it leaves the final line. -/
theorem closes_invoked {x : Instance} {args : List Datum} {r : Role} {f : Callee} {values : List Value}
    {tail : List Value → EngineJob Unit} (hValues : r.values? args f.type.params = some values)
    (hFixture : x.fixture = l.fixture) (hTimed : j.host.isTimed = true) (hLines : x.machine.lines = j.host.lines)
    (hTail : ∀ results, Leaves (r.finalLine l.fixture.surroundings.reference args results) (tail results)) :
    Closes (j.host.noted (.entered f)) (l.invoked j.host.fuel args r f x.machine)
      ((ending (invoke x f values >>= tail) j).1, (after (invoke x f values >>= tail) j).host) := by
  have hInvoke := ending_invoke x f values hTimed hLines
  rw [hFixture] at hInvoke
  simp only [Linked.invoked, hValues, after, ending_bind]
  rcases hRun : (Act.invoke l.fixture (allowance l.fixture.surroundings.patience true j.host.fuel) f values).ending
    x.machine with ⟨h | results, n⟩
  · rw [hRun] at hInvoke
    dsimp only at hInvoke
    rw [hInvoke]
    exact .failure _ _ _
  · rw [hRun] at hInvoke
    dsimp only at hInvoke
    rw [hInvoke]
    have hLeft := hTail results (j.hosting { j.host.noted (.entered f) with lines := n.lines })
    dsimp only
    cases hFinal : r.finalLine l.fixture.surroundings.reference args results with
    | error g =>
        rw [hFinal] at hLeft
        obtain ⟨⟨g, hError⟩, hHost⟩ := hLeft
        rw [after] at hHost
        rw [hError, hHost]
        exact .failed g n
    | ok text =>
        rw [hFinal] at hLeft
        obtain ⟨hOk, hHost⟩ := hLeft
        rw [after] at hHost
        rw [hOk, hHost]
        exact .line text n

/-- What is done behind an invocation. -/
def Role.conclude (reference : Nat → String) (args : List Datum) (results : List Value) : Role → EngineJob Unit
  | named name => do
    let shown ← Job.ofExcept (args.mapM formatNumber)
    Job.log .debug .wasm
      ("Invoked " ++ name ++ " with " ++ toString args.length ++ " argument(s)")
    let answer ← Job.ofExcept (formatNumber (resultDatum reference results))
    printLine (name ++ "(" ++ Text.join ", " shown ++ ") = " ++ answer)
  | start => printLine "WASM module executed (_start)"
  | main => do
    let answer ← Job.ofExcept (formatNumber (resultDatum reference results))
    printLine ("main() = " ++ answer)

theorem leaves_conclude (r : Role) (reference : Nat → String) (args : List Datum) (results : List Value) :
    Leaves (r.finalLine reference args results) (r.conclude reference args results) := by
  cases r with
  | named name =>
      refine Leaves.bind fun shown => ?_
      refine Leaves.logged ?_
      rw [formatNumber_resultDatum]
      exact Leaves.bind fun answer => leaves_printLine _
  | start => exact leaves_printLine _
  | main =>
      rw [Role.conclude, formatNumber_resultDatum]
      exact Leaves.bind fun answer => leaves_printLine _

section

variable {x : Instance} {e : EntryPoint} {r : Role} {f : Callee} {args : List Datum}
  {values : List Value}

theorem invokePlain_fit (hParams : f.type.params = []) : invokePlain x f = invoke x f [] := by
  simp [invokePlain, hParams]

theorem invokePlain_unfit (hParams : f.type.params ≠ []) : ∃ g, invokePlain x f = Job.fail g := by
  have hCount : f.type.params.length ≠ 0 := by simpa using hParams
  simp [invokePlain, hCount]

theorem enter_unfit (hTarget : e.target? = some (r, f)) (hValues : r.values? args f.type.params = none) :
    ∃ g, enter x args e = Job.fail g := by
  cases e with
  | listing => cases hTarget
  | named name g =>
      cases hTarget
      simp only [enter, callNamed]
      by_cases hCount : args.length = f.type.params.length
      · cases hArguments : arguments args f.type.params with
        | ok values => simp [Role.values?, hCount, hArguments, Except.toOption] at hValues
        | error g =>
            simp only [hCount, bne_self_eq_false, Bool.false_eq_true, ↓reduceIte]
            exact ⟨g, rfl⟩
      · simp [hCount]
  | start g =>
      cases hTarget
      obtain ⟨g, hPlain⟩ := invokePlain_unfit (x := x) (f := f) (by simpa [Role.values?] using hValues)
      exact ⟨g, by rw [enter, hPlain]; rfl⟩
  | main g =>
      cases hTarget
      obtain ⟨g, hPlain⟩ := invokePlain_unfit (x := x) (f := f) (by simpa [Role.values?] using hValues)
      exact ⟨g, by rw [enter, hPlain]; rfl⟩

theorem enter_fit (hTarget : e.target? = some (r, f))
    (hValues : r.values? args f.type.params = some values) :
    enter x args e = invoke x f values >>= fun results =>
      r.conclude x.fixture.surroundings.reference args results := by
  cases e with
  | listing => cases hTarget
  | named name g =>
      cases hTarget
      by_cases hCount : args.length = f.type.params.length
      · cases hArguments : arguments args f.type.params with
        | error g => simp [Role.values?, hCount, hArguments, Except.toOption] at hValues
        | ok others =>
            have hSame : others = values := by
              simpa [Role.values?, hCount, hArguments, Except.toOption] using hValues
            have hEnough : (args.length != f.type.params.length) = false := by simp [hCount]
            simp only [enter, callNamed, hEnough, hArguments, hSame, Bool.false_eq_true, ↓reduceIte]
            rfl
      · simp [Role.values?, hCount] at hValues
  | start g =>
      cases hTarget
      obtain ⟨hParams, rfl⟩ : f.type.params = [] ∧ [] = values := by simpa [Role.values?] using hValues
      rw [enter, invokePlain_fit hParams]
      rfl
  | main g =>
      cases hTarget
      obtain ⟨hParams, rfl⟩ : f.type.params = [] ∧ [] = values := by simpa [Role.values?] using hValues
      rw [enter, invokePlain_fit hParams]
      rfl

end

theorem listing_of_target {e : EntryPoint} (hTarget : e.target? = none) : e = .listing := by
  cases e with
  | listing => rfl
  | _ => cases hTarget

/-- Entering an instance closes as it is decided by the names that the module exports. -/
theorem closes_enter {c : Call} {x : Instance} (hFixture : x.fixture = l.fixture)
    (hFunctions : x.functions = l.exports) (hNames : l.exports.map (·.1) = l.program.module.functionNames)
    (hTimed : j.host.isTimed = true) (hLines : x.machine.lines = j.host.lines) :
    Closes (j.host.visited (l.invoked? c)) (l.entered j.host.fuel c x.machine)
      ((ending (enter x c.args (.choose x.functions c.entryPoint)) j).1,
        (after (enter x c.args (.choose x.functions c.entryPoint)) j).host) := by
  have hChoice := target_choose l.exports c.entryPoint
  rw [hNames] at hChoice
  rw [Linked.entered, Linked.invoked?, Linked.target?, ← hChoice, hFunctions]
  cases hTarget : (EntryPoint.choose l.exports c.entryPoint).target? with
  | none =>
      have hListing := listing_of_target hTarget
      have hListed := Closes.listing (s := j.host) (l.exports.map (·.1)) x.machine
      rw [← hNames, hListing, enter, hFunctions]
      exact hListed
  | some target =>
      rcases target with ⟨r, f⟩
      dsimp only
      cases hValues : r.values? c.args f.type.params with
      | none =>
          obtain ⟨g, hFail⟩ := enter_unfit (x := x) hTarget hValues
          rw [hFail, Option.bind_some, hValues]
          exact closes_unfit hValues hLines
      | some values =>
          rw [enter_fit hTarget hValues, Option.bind_some, hValues]
          rw [hFixture]
          exact closes_invoked hValues hFixture hTimed hLines fun results => leaves_conclude r _ c.args results

end

end SnippetService.Wasm
