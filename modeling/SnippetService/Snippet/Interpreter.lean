import SnippetService.Snippet.Engine
/-!
The harness as an interpreter runs it, step by step. What the interpreter does with a value is left open: the snippet
has run in the same realm before the harness looks at what it came to, so any step may fail there, and names, fields
and functions may have come to stand for something else.
-/
namespace SnippetService.Snippet

/-- Why a script stops before its end. -/
inductive Halt (V : Type) where
  | thrown (v : V)
  /-- A limit was reached, which no script can catch. -/
  | stopped (f : Failure)

/-- What is done in a realm with values. -/
abbrev Work (ρ V α : Type) := EStateM (Halt V) ρ α

/-- Hand what is thrown to a handler, in the realm as it is then. -/
def Work.catching {ρ V α : Type} (work : Work ρ V α) (handler : V → Work ρ V α) : Work ρ V α := fun r =>
  match work r with
  | .error (.thrown v) r => handler v r
  | ended => ended

/-- What the harness takes from the interpreter that runs it. -/
structure Interpreter (ρ V : Type) where
  undefined : V
  null : V
  ofBool : Bool → V
  ofNat : Nat → V
  /-- Whether a value is one of the two that stand for nothing. -/
  isNullish : V → Bool
  isNullish_undefined : isNullish undefined = true
  isTruthy : V → Bool
  typeName : ρ → V → String
  /-- The text of a value that is a string. -/
  text? : V → Option Text
  /-- The value of a name outside of all functions. -/
  global : String → Work ρ V V
  get : V → String → Work ρ V V
  put : V → String → V → Work ρ V Unit
  /-- Call a function with `this` and arguments. -/
  call : V → V → List V → Work ρ V V
  /-- A new object with fields of its own. -/
  object : List (String × V) → Work ρ V V
  /-- Run a text as a program of its own. -/
  program : Text → Work ρ V V
  /-- The realm at the start of an evaluation, from where its limits count. -/
  begun : ρ → ρ
  /-- What is told outside of a value that nobody has caught. -/
  told : V → ρ → Text × ρ

/-- What the evaluation of a snippet comes to. -/
inductive Attempt (V : Type) where
  | completed (v : V)
  | threw (v : V)

namespace Interpreter

variable {ρ V : Type} (I : Interpreter ρ V)

/-- The text of a value, as the function of the name `String` gives it. -/
def asText (read : Work ρ V V) : Work ρ V V := do
  let string ← I.global "String"
  I.call string I.undefined [← read]

/-- What is told of a thrown value. -/
def describe (v : V) : Work ρ V V := do
  if I.isNullish v then return I.null
  else if I.isTruthy (← I.get v "message") then I.asText (I.get v "message")
  else
    let text ← I.asText (return v)
    return if I.isTruthy text then text else I.null

/-- The last way to show a value: by the tag of its class. -/
def classText (v : V) : Work ρ V V := do
  let object ← I.global "Object"
  let prototype ← I.get object "prototype"
  let toString ← I.get prototype "toString"
  let call ← I.get toString "call"
  I.call call toString [v]

/-- The JSON text of an object; nothing for any other value, or if there is no such text. -/
def jsonText (stringify v : V) : Work ρ V V := do
  if I.typeName (← MonadState.get) v = "object" then
    (I.call stringify I.undefined [v, I.null, I.ofNat 2]).catching fun _ => return I.undefined
  else return I.undefined

/-- Show the value that a snippet has completed with. The last way is not guarded. -/
def render (stringify v : V) : Work ρ V V := do
  if I.isNullish v then return I.null
  else
    let text ← I.jsonText stringify v
    if I.isNullish text then (I.asText (return v)).catching fun _ => I.classText v
    else return text

/-- Evaluate the snippet itself. -/
def evaluation (code : Text) : Work ρ V V := I.program (prologue ++ code)

def attempt (code : Text) : Work ρ V (Attempt V) :=
  Work.catching (do return .completed (← I.evaluation code)) fun v => return .threw v

/-- The fields of an outcome: whether the snippet completed, and what is shown of its value or of what it threw. -/
def fields (stringify : V) : Attempt V → Work ρ V (List (String × V))
  | .completed v => do return [("ok", I.ofBool true), ("value", ← I.render stringify v)]
  | .threw v => do return [("ok", I.ofBool false), ("error", ← I.describe v)]

/-- Put the console lines to an outcome, and write it. -/
def report (reader stringify : V) (fields : List (String × V)) : Work ρ V V := do
  let outcome ← I.object fields
  let captured ← I.call reader I.undefined []
  I.put outcome "logs" (← I.get captured "logs")
  I.put outcome "errors" (← I.get captured "errors")
  I.call stringify I.undefined [outcome]

/-- What the harness takes from the realm before the snippet runs: the reader of the console, and what writes JSON. -/
def tools : Work ρ V (V × V) := do
  let globalThis ← I.global "globalThis"
  let reader ← I.get globalThis readerName
  let json ← I.global "JSON"
  return (reader, ← I.get json "stringify")

/-- The part of the harness behind the evaluation of the snippet. -/
def conclusion (reader stringify : V) (a : Attempt V) : Work ρ V V := do
  I.report reader stringify (← I.fields stringify a)

/-- Run a snippet in the harness. -/
def harness (code : Text) : Work ρ V V := do
  let (reader, stringify) ← I.tools
  I.conclusion reader stringify (← I.attempt code)

/-- Read the console after an abort. -/
def reading : Work ρ V V := do
  let json ← I.global "JSON"
  let stringify ← I.get json "stringify"
  let reader ← I.global readerName
  I.call stringify json [← I.call reader I.undefined []]

/-- What is seen outside of an end inside. -/
def answerTo : EStateM.Result (Halt V) ρ V → Except Failure (Option Text) × ρ
  | .ok v r => (.ok (I.text? v), r)
  | .error (.thrown v) r => (.error (.unexpected .script (I.told v r).1), (I.told v r).2)
  | .error (.stopped f) r => (.error f, r)

/-- The contexts in which an interpreter runs one code. -/
def access (code : Text) : ContextAccess ρ where
  eval purpose text r :=
    let work := match purpose with
      | .install => I.program text
      | .evaluate => I.harness code
      | .readConsole => I.reading
    I.answerTo (work (I.begun r))
  collect := id

end Interpreter

/-- A context that runs the harness of a code as an interpreter does. -/
def ContextAccess.Follows {ρ V : Type} (access : ContextAccess ρ) (I : Interpreter ρ V) (code : Text) : Prop :=
  ∀ r, access.eval .evaluate (harnessText code) r = I.answerTo (I.harness code (I.begun r))

end SnippetService.Snippet
