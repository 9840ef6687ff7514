import SnippetService.Script.Context
import SnippetService.Snippet.Interpreter
/-!
Contexts that interpret scripts, and contexts whose answers are laid down beforehand.
-/
namespace SnippetService.Snippet

/-- The answer of an evaluation: text, or nothing for any other value. -/
def answerText (v : Script.Value) : Option Text :=
  match v with
  | .string s => some (s.codePoints.map Point.ofNat)
  | _ => none

/-- A context of the interpreter. -/
def interpreter : ContextAccess Script.Context where
  eval _ text c :=
    match c.eval text with
    | (.ok v, c) => (.ok (answerText v), c)
    | (.error text, c) => (.error (.unexpected .script text.toString), c)
  collect c := c

/-- Contexts of the interpreter, which needs nothing of the world; `steps` tells what a limit of time allows. -/
def contexts (steps : Int → Nat) : Contexts Script.Context where
  access := interpreter
  fresh seconds _ _ := .ok (Script.Context.fresh (steps seconds))

/-- Work on the store of a script context. -/
def onStore {α : Type} (run : Script.Run α) : Work Script.Context Script.Value α := fun c =>
  match run.run Script.Library.machine.calls c.realm with
  | .ok a realm => .ok a { c with realm := realm }
  | .error (.thrown v) realm => .error (.thrown v) { c with realm := realm }
  | .error _ realm =>
    .error (.stopped (.unexpected .script Script.Context.interruptedText.toString)) { c with realm := realm }

/-- The units of a text. -/
def unitsOf (s : Text) : Units := s.foldl (fun us p => us ++ Units.ofCodePoint p.toNat) ∅

/-- The interpreter of scripts, as the harness uses it. -/
def scripts : Interpreter Script.Context Script.Value where
  undefined := .undefined
  null := .null
  ofBool := .boolean
  ofNat := .ofNat
  isNullish := Script.Value.isNullish
  isNullish_undefined := rfl
  isTruthy := Script.Value.truthy
  typeName c v :=
    match (Script.Run.typeName v).run Script.Library.machine.calls c.realm with
    | .ok name _ => name
    | .error _ _ => ""
  text? := answerText
  global name := onStore (Script.Run.readName 0 name)
  get v name := onStore (Script.Run.get v name)
  put v name x := onStore (Script.Run.put v name x true)
  call f this args := onStore (Script.Run.call f this args.toArray)
  object fields := onStore do
    let ref ← Script.Run.newObject
    for (name, v) in fields do Script.Run.defineValue ref name v
    return .object ref
  program text := onStore (Script.Run.program (unitsOf text))
  begun c := { c with realm := { c.realm with budget := c.steps } }
  told v c :=
    let start := { c.realm with budget := c.steps }
    match (Script.Context.thrownText v).run Script.Library.machine.calls start with
    | .ok text realm => (text.toString, { c with realm := realm })
    | .error _ realm => (Script.Context.interruptedText.toString, { c with realm := realm })

/-- What is asked of a context. -/
inductive ContextCall where
  | timeLimit (seconds : Datum)
  | memoryLimit (bytes : Datum)
  | eval (purpose : EvalPurpose)
  | collect

/-- A context that gives prepared answers one after another and notes what is asked of it. -/
structure ScriptedContext where
  answers : List (Except Failure (Option Text))
  calls : List ContextCall

/-- The access of a prepared context. Without an answer left, the evaluation gives nothing. -/
def scripted : ContextAccess ScriptedContext where
  eval purpose _ c :=
    let calls := c.calls ++ [.eval purpose]
    match c.answers with
    | [] => (.ok none, ⟨[], calls⟩)
    | answer :: rest => (answer, ⟨rest, calls⟩)
  collect c := { c with calls := c.calls ++ [.collect] }

end SnippetService.Snippet
