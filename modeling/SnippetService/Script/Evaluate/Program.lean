import SnippetService.Script.Reading.Program
import SnippetService.Script.Evaluate.Call
/-!
Running programs. The evaluator for code nested up to a depth is built from the one for code nested
less deep; the same count bounds how deep calls nest, so every run ends.
-/
namespace SnippetService.Script

namespace Evaluate

open Run

/-- Run a program in a frame. Strict code keeps its variables to itself; other code adds them to the
frame's. -/
def runProgram (ev : Evaluator) (p : Program) (outer : Frame) : Run Value := do
  let scope ← newScope .names (unreached p.declared.names) outer.scope
  let varScope := if p.strict then scope else outer.varScope
  p.vars.forM (declareVar varScope)
  let f : Frame :=
    { scope := scope, varScope := varScope, activation := outer.activation, strict := p.strict
      collects := true }
  p.declared.functions.forM fun index => do
    match ← codeOf index with
    | some node =>
      let ref ← makeFunction f index none none
      initName varScope node.name (.object ref)
    | none => return
  let saved := (← MonadState.get).completion
  modify fun r => { r with completion := .undefined }
  let _ ← sequence ev f p.body
  let value := (← MonadState.get).completion
  modify fun r => { r with completion := saved }
  return value

/-- Run a text as a program in a frame. -/
def runText (ev : Evaluator) (context : ProgramContext) (outer : Frame) (text : Units) :
    Run Value := do
  match Program.read text context (← MonadState.get).code with
  | .error fault => fail (.unreadable fault)
  | .ok (p, table) =>
    modify fun r => { r with code := table }
    runProgram ev p outer

/-- The frame outside of all functions. -/
def globalFrame : Frame := { scope := 0, varScope := 0, activation := 0, strict := false }

/-- Run a text that `eval` is called with by name: the code sees what surrounds the call. -/
def runDirect (ev : Evaluator) (f : Frame) (v : Value) : Run Value := do
  match v with
  | .string text =>
    let a ← activation f.activation
    let derived ← match a.function with
      | .object ref => match ← kindOf ref with
        | .closure c => pure c.derived
        | _ => pure false
      | _ => pure false
    let context : ProgramContext :=
      { strict := f.strict
        superCall := derived
        superMember := a.home.isSome
        newTarget := f.activation != 0 }
    runText ev context f text
  | v => return v

/-- A regular expression. -/
def newRegexp (source flags : Units) : Run Value :=
  allocValue
    { proto := some Intrinsic.regexpPrototype.ref
      kind := .regexp source flags
      entries := #[("lastIndex", .data (.number 0.0) true false false)] }

/-- What expressions need beside their parts. -/
def services (ev : Evaluator) : Services where
  runText := runDirect ev
  classValue := classValue ev
  regexp := newRegexp
  awaitValue := fun _ => halt .suspended

end Evaluate

/-- Everything that runs code. -/
structure Machine where
  evaluator : Evaluator
  calls : Calls

namespace Machine

open Evaluate

/-- The machine that may not go any deeper. -/
def exhausted : Machine :=
  let stopped {α : Type} : Run α := Run.fail .stackOverflow
  let calls : Calls :=
    { call := fun _ _ _ s => .error .interrupted s
      construct := fun _ _ _ s => .error .interrupted s
      program := fun _ s => .error .interrupted s }
  { evaluator :=
      { expr := fun _ _ => stopped
        link := fun _ _ => stopped
        bind := fun _ _ _ _ => stopped
        stmt := fun _ _ _ => stopped }
    calls :=
      { call := fun _ _ _ => stopped.run calls
        construct := fun _ _ _ => stopped.run calls
        program := fun _ => stopped.run calls } }

/-- The machine for code and calls nested up to a depth. -/
def ofDepth (natives : Array Native) : Nat → Machine
  | 0 => exhausted
  | n + 1 =>
    let inner : Thunk Machine := Thunk.mk fun _ => ofDepth natives n
    { evaluator :=
        { expr := fun f e _ =>
            let m := inner.get
            (expression m.evaluator (services m.evaluator) f e).run m.calls
          link := fun f e _ =>
            let m := inner.get
            (link m.evaluator (runDirect m.evaluator) f e).run m.calls
          bind := fun f mode p v _ =>
            let m := inner.get
            (pattern m.evaluator f mode p v).run m.calls
          stmt := fun f labels s _ =>
            let m := inner.get
            (statement m.evaluator (services m.evaluator) f labels s).run m.calls }
      calls :=
        { call := fun v this args =>
            let m := inner.get
            (callValue m.evaluator natives v this args).run m.calls
          construct := fun v args newTarget =>
            let m := inner.get
            (constructValue m.evaluator natives v args newTarget).run m.calls
          program := fun text =>
            let m := inner.get
            (runText m.evaluator { globalVars := true } globalFrame text).run m.calls } }

end Machine

end SnippetService.Script
