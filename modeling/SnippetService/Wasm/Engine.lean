import SnippetService.Execution.Executor
import SnippetService.Wasm.Argument
import SnippetService.Wasm.Instance
/-!
The engine for WebAssembly modules. It loads a module, links it with the functions of the host, and calls
one exported function: the one that is asked for, or a start function, or the main function. The lines
that were printed stay with the engine, so a later run adds to them.
-/
namespace SnippetService.Wasm

def runtime : String := "WebAssembly (Native)"

def noOutput : String := "WASM executed successfully (no output)"

def argumentHint : String := "Pass one numeric argument per function parameter."

def startExport : String := "_start"

def mainExport : String := "main"

/-- What happens on an engine to what it holds. -/
inductive Stage where
  /-- Bytes are handed to the compiler. -/
  | compiled
  /-- A function of an instance is called from outside. -/
  | entered (c : Callee)
  /-- The timer that ends the time of the engine is started. -/
  | timerStarted
  | timerCancelled
  /-- The runtime and the store are given up. -/
  | released

/-- Whether a timer runs after these stages, of which the latest is the first. -/
def timerRuns : List Stage → Bool
  | [] => false
  | .timerStarted :: _ => true
  | .timerCancelled :: _ => false
  | _ :: earlier => timerRuns earlier

/-- What an engine keeps between runs. -/
structure EngineState where
  isOpen : Bool := true
  /-- The bytes that each memory may have. -/
  memoryLimit : Option Nat := none
  surroundings : Surroundings
  /-- The steps that a run may take while the timer runs. -/
  steps : Nat
  /-- Whether the time of the engine is over; then no code runs on it any more. -/
  isOver : Bool := false
  /-- The output lines, the latest first. -/
  lines : List Text := []
  /-- What has happened so far, the latest first. -/
  stages : List Stage := []

/-- An instance whose exported functions can be called. -/
structure Instance where
  fixture : Fixture
  /-- The state after the start function has run. -/
  machine : Machine
  /-- The exported functions by name. -/
  functions : List (String × Callee)

variable {σ : Type}

abbrev EngineJob (α : Type) := Job EngineState α

def loadFailure (message : Text) : Failure := .classified .load message none

namespace EngineState

def noted (s : EngineState) (e : Stage) : EngineState := { s with stages := e :: s.stages }

/-- Whether the timer runs. -/
def isTimed (s : EngineState) : Bool := timerRuns s.stages

/-- The steps that the timer leaves to a run, unless the time is over. -/
def fuel (s : EngineState) : Option Nat := if s.isOver then none else some s.steps

end EngineState

/-- The steps that code may take: none once the time is over, those of the timer while it runs, and all that the
process has left where no timer stops it. -/
def allowance (patience : Nat) (isTimed : Bool) : Option Nat → Nat
  | none => 0
  | some steps => if isTimed then steps else patience

/-- Note what happens. -/
def reach (e : Stage) : EngineJob Unit := Job.modifyHost (·.noted e)

/-- Work on an instance; what it prints is kept however it ends. -/
def onMachine {α : Type} (m : Machine) (act : Act α) : EngineJob (Except Halt α × Machine) := do
  let s ← Job.host
  let (r, m) := match act { m with lines := s.lines } with
    | .ok a m => (Except.ok a, m)
    | .error h m => (.error h, m)
  Job.setHost { s with lines := m.lines }
  return (r, m)

/-- Whether code was stopped because it has no steps left. -/
def Halt.isTimeout : Halt → Bool
  | .trap .interrupted => true
  | _ => false

/-- The failure of a run that was halted. -/
def haltFailure (c : FailureClass) (trapText : Trap → String) : Halt → Failure
  | .trap t => .classified c (trapText t) none
  | .failed f => f
  | .stuck => .unexpected (.other "RuntimeError") "the code does not fit its types"

/-- What becomes of code that does not come back and that nothing stops: it is never answered, and runs until the
process is ended. -/
def unending : Failure := .shutdown "SystemExit" ""

/-- The failure of a call that was halted. Code that has no steps left is stopped by the timer, or because the time is
over; with neither it does not come back. -/
def EngineState.failureOf (s : EngineState) (kind : FailureClass) (h : Halt) : Failure :=
  if h.isTimeout && !s.isTimed && !s.isOver then unending else haltFailure kind Trap.report h

/-- Call a function from outside. Where the timer stops it, the time of the engine is over. -/
def callFunction (kind : FailureClass) (fixture : Fixture) (m : Machine) (c : Callee) (args : List Value) :
    EngineJob (List Value × Machine) := do
  let s ← Job.host
  reach (.entered c)
  let (r, m) ← onMachine m (Act.invoke fixture (allowance fixture.surroundings.patience s.isTimed s.fuel) c args)
  match r with
  | .ok vs => return (vs, m)
  | .error h =>
    if h.isTimeout && s.isTimed then Job.modifyHost fun s => { s with isOver := true }
    Job.fail (s.failureOf kind h)

/-- Part of the making of an instance. -/
def initially (trapText : Trap → String) (m : Machine) (act : Act Unit) : EngineJob Machine := do
  let (r, m) ← onMachine m act
  match r with
  | .ok () => return m
  | .error h => Job.fail (haltFailure .load trapText h)

/-- The functions that a module exports. -/
def Linked.exports (l : Linked) : List (String × Callee) :=
  l.program.module.exports.filterMap fun e =>
    match e.kind with
    | .function => (l.fixture.functions[e.index]?).map fun c => (e.name, c)
    | _ => none

/-- The start function. -/
def Linked.start? (l : Linked) : Option Callee :=
  l.program.module.start.bind fun f => l.fixture.functions[f]?

/-- Make an instance and run its start function. -/
def instantiate (l : Linked) : EngineJob Instance := do
  let s ← Job.host
  let module := l.program.module
  match module.memories.mapM (Memory.ofType s.memoryLimit) with
  | .error message => Job.fail (loadFailure message)
  | .ok memories =>
    let empty : Machine :=
      { memories := memories.toArray, tables := (module.tables.map (Elements.ofType s.surroundings.bounds)).toArray }
    let m ← initially Trap.brief empty (Act.setUp module)
    match l.start? with
    | none => return ⟨l.fixture, m, l.exports⟩
    | some start =>
      let (_, m) ← callFunction .load l.fixture m start []
      return ⟨l.fixture, m, l.exports⟩

/-- Call a function of an instance. -/
def invoke (x : Instance) (c : Callee) (args : List Value) : EngineJob (List Value) := do
  let (vs, _) ← callFunction .evaluation x.fixture x.machine c args
  return vs

/-- Call a function without arguments. -/
def invokePlain (x : Instance) (c : Callee) : EngineJob (List Value) := do
  let count := c.type.params.length
  if count == 0 then invoke x c []
  else Job.fail (.classified .evaluation
    ("too few parameters provided: given 0, expected " ++ toString count) none)

/-- The results of a call as one value. -/
def resultDatum (reference : Nat → String) : List Value → Datum
  | [] => .null
  | [v] => v.toDatum reference
  | vs => .list (vs.map (Value.toDatum reference))

/-- Add a line to the output. -/
def printLine (s : Text) : EngineJob Unit :=
  Job.modifyHost fun h => { h with lines := s :: h.lines }

/-- Call the function that was asked for. -/
def callNamed (x : Instance) (name : String) (c : Callee) (args : List Datum) : EngineJob Unit := do
  let expected := c.type.params.length
  if args.length != expected then
    Job.fail (.classified .evaluation
      (name ++ " expects " ++ toString expected ++ " argument(s), got " ++ toString args.length)
      (some argumentHint))
  else
    let values ← Job.ofExcept (arguments args c.type.params)
    let results ← invoke x c values
    let shown ← Job.ofExcept (args.mapM formatNumber)
    Job.log .debug .wasm
      ("Invoked " ++ name ++ " with " ++ toString args.length ++ " argument(s)")
    let answer ← Job.ofExcept (formatNumber (resultDatum x.fixture.surroundings.reference results))
    printLine (name ++ "(" ++ Text.join ", " shown ++ ") = " ++ answer)

/-- What a run calls. -/
inductive EntryPoint where
  | named (name : String) (c : Callee)
  | start (c : Callee)
  | main (c : Callee)
  /-- Nothing can be called; the exported functions are listed instead. -/
  | listing

/-- The entry point is the function that was asked for if it is exported, else a start function, else the
main function. -/
def EntryPoint.choose (functions : List (String × Callee)) (requested : Option Text) : EntryPoint :=
  let asked := ((requested.filter (!·.isEmpty)).bind Text.plain?).bind fun name =>
    (functions.lookup name).map fun c => (name, c)
  match asked with
  | some (name, c) => .named name c
  | none =>
    match functions.lookup startExport with
    | some c => .start c
    | none =>
      match functions.lookup mainExport with
      | some c => .main c
      | none => .listing

/-- The line that lists exported functions. -/
def exportsLine (names : List String) : Text :=
  "Available exports: " ++ orElseText (", ".intercalate names) "none"

/-- Run an instance from an entry point. -/
def enter (x : Instance) (args : List Datum) : EntryPoint → EngineJob Unit
  | .named name c => callNamed x name c args
  | .start c => do
    let _ ← invokePlain x c
    printLine "WASM module executed (_start)"
  | .main c => do
    let results ← invokePlain x c
    let answer ← Job.ofExcept (formatNumber (resultDatum x.fixture.surroundings.reference results))
    printLine ("main() = " ++ answer)
  | .listing =>
    Job.modifyHost fun s => { s with lines := [exportsLine (x.functions.map (·.1))] }

/-- Work for which the timer runs. The timer is cancelled however the work ends. -/
def timed {α : Type} (job : EngineJob α) : EngineJob α := do
  reach .timerStarted
  let r ← Job.outcome job
  reach .timerCancelled
  Job.ofExcept r

/-- Run a module. -/
def execute (code : Option Text) (bytes : Option Bytes) (entryPoint : Option Text)
    (args : List Datum) : EngineJob RunResult := do
  if !(← Job.host).isOpen then
    Job.fail (loadFailure "WebAssembly engine has already been disposed")
  else
    let binary ← Job.ofExcept (classify code bytes)
    reach .compiled
    let surroundings := (← Job.host).surroundings
    match Program.load surroundings.bounds binary with
    | .error f => Job.fail (loadFailure f.message)
    | .ok p =>
      let host ← Job.ofExcept p.module.hostFunctions
      let x ← instantiate (p.link surroundings host)
      timed (enter x args (.choose x.functions entryPoint))
      let output : Text := (← Job.host).lines.reverse.flatten
      return { success := true, output := some (orElseText output noOutput), error := .null, runtime := runtime }

/-- Give the engine up. -/
def dispose : EngineJob Unit :=
  Job.modifyHost fun s => if s.isOpen then { s with isOpen := false }.noted .released else s

def engine : Engine EngineState where
  execute code input :=
    match input with
    | .binary bytes entryPoint args => execute code bytes entryPoint args
    | _ => execute code none none []
  dispose := dispose

/-- The text of an option; an option of another kind is no text. -/
def textOption (options : Options) (name : String) : Option Text :=
  match options.lookup name with
  | some (.text s) => some s
  | _ => none

/-- The arguments of a call; anything empty counts as none. -/
def argsOption (options : Options) : List Datum :=
  match options.lookup "args" with
  | some (.list items) => items
  | _ => []

/-- What is submitted with a call as a module; anything empty counts as none. -/
def encodedOption (options : Options) : Option Datum :=
  (options.lookup "wasm_base64").filter Datum.truthy

/-- The bytes of what is submitted. Only text can be decoded. -/
def decodeOption (d : Datum) : Except Failure Bytes :=
  match d with
  | .text s => decodeSubmission s
  | .bytes data =>
    if data.all fun b => (9 ≤ b && b ≤ 13) || b == 32 then decodeSubmission ""
    else .error (wrongType "sequence item 0: expected str instance, bytes found")
  | d => .error (.unexpected .missingAttribute ("'" ++ d.className ++ "' object has no attribute 'split'"))

/-- The executor of WebAssembly modules. -/
def executor (build : Job σ (Engine σ)) : Executor σ where
  runtime := runtime
  language := "wasm"
  hasInput code options := Executor.hasCode code || (encodedOption options).isSome
  build := build
  run e code options := do
    let bytes ← Job.ofExcept ((encodedOption options).mapM decodeOption)
    e.perform code (.binary bytes (textOption options "entry_point") (argsOption options))

end SnippetService.Wasm
