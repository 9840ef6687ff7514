import SnippetService.Data.Json
import SnippetService.Execution.Executor
import SnippetService.Execution.Moment
import SnippetService.Snippet.Harness
import SnippetService.Snippet.Outcome
/-!
The engine for script snippets. It works on any context that evaluates texts: it installs the console,
evaluates the snippet in its harness, and, when that was aborted, reads the console that is left.
-/
namespace SnippetService.Snippet

/-- What a text is evaluated for. -/
inductive EvalPurpose where
  | install
  | evaluate
  | readConsole
  deriving DecidableEq

/-- How a context evaluates texts and gives back its memory. The answer of an evaluation is a text, if
its value is one. -/
structure ContextAccess (κ : Type) where
  eval : EvalPurpose → String → κ → Except Failure (Option Text) × κ
  collect : κ → κ

/-- How contexts are had. -/
structure Contexts (κ : Type) where
  access : ContextAccess κ
  /-- A new context, whose evaluations may take so many seconds and bytes. -/
  fresh : (seconds bytes : Int) → Chance → Except Failure κ

/-- A context and whether it is still in use. -/
structure Session (κ : Type) where
  context : κ
  isOpen : Bool

variable {κ : Type}

abbrev SessionJob (κ α : Type) := Job (Session κ) α

/-- Evaluate a text in the context of the session. -/
def evaluate (access : ContextAccess κ) (purpose : EvalPurpose) (text : String) :
    SessionJob κ (Option Text) := do
  let s ← Job.host
  let (r, context) := access.eval purpose text s.context
  Job.setHost { s with context := context }
  Job.ofExcept r

/-- The value of an answer that should be JSON text. -/
def parsed (answer : Option Text) : Except Failure Datum :=
  match answer with
  | none => .error (typeFailure "the JSON object must be str, bytes or bytearray, not NoneType")
  | some s =>
    match Json.read s with
    | .ok d => .ok d
    | .error f =>
      let kind : ErrorKind := match f.problem with
        | .tooManyDigits _ => .value
        | .tooDeep => .recursion
        | _ => .malformedJson
      .error (.unexpected kind (f.message s))

/-- Whether a failure is an abort of the evaluation: something was thrown out of it, or a limit of time
or memory was reached. -/
def isAbort : Failure → Bool
  | .unexpected .script _ | .unexpected .memory _ => true
  | _ => false

/-- The items of a value that can be gone through. A text gives its characters, and a record its names. -/
def itemsOf : Datum → Option (List Datum)
  | .list items => some items
  | .text s => some (s.map fun p => .text [p])
  | .record fields => some (fields.map fun f => .text f.1)
  | _ => none

/-- The field that an item of a list brings into a record: a name and a value. A name that is no text is never
asked for, so its field is left out. -/
def fieldOf (index : Nat) (item : Datum) : Except Failure (Option (Text × Datum)) :=
  match itemsOf item with
  | none => .error (typeFailure
      ("cannot convert dictionary update sequence element #" ++ toString index ++ " to a sequence"))
  | some [name, d] =>
    match name with
    | .text s => .ok (some (s, d))
    | .list _ | .record _ => .error (typeFailure ("unhashable type: '" ++ name.className ++ "'"))
    | _ => .ok none
  | some parts => .error (.unexpected .value ("dictionary update sequence element #" ++ toString index ++
      " has length " ++ toString parts.length ++ "; 2 is required"))

/-- The fields that the items of a list bring into a record. -/
def fieldsFrom : Nat → List Datum → Except Failure (List (Text × Datum))
  | _, [] => .ok []
  | i, item :: rest => do
    let field ← fieldOf i item
    return field.toList ++ (← fieldsFrom (i + 1) rest)

/-- The fields that a value brings into a record. -/
def updates (d : Datum) : Except Failure (List (Text × Datum)) :=
  match d with
  | .record fields => .ok fields
  | d =>
    match itemsOf d with
    | some items => fieldsFrom 0 items
    | none => .error (typeFailure ("'" ++ d.className ++ "' object is not iterable"))

/-- A record with the fields of another put over its own. -/
def overlay (fields new : List (Text × Datum)) : List (Text × Datum) :=
  new.foldl (fun acc f => Datum.setField acc f.1 f.2) fields

/-- What the console holds after an abort; nothing if it cannot be read. -/
def readConsole (access : ContextAccess κ) : SessionJob κ Datum := do
  match ← Job.outcome (evaluate access .readConsole readerText) with
  | .ok answer => Job.ofExcept (parsed answer)
  | .error f =>
    if isAbort f then
      Job.log .warning .javascript ("Could not read console of user-code.js: " ++ f.text)
      return .record [("logs", .list []), ("errors", .list [])]
    else Job.fail f

/-- The outcome of evaluating a snippet. After an abort it is a failure with the console that is
left. -/
def outcomeOf (access : ContextAccess κ) (code : Text) : SessionJob κ Datum := do
  match ← Job.outcome (evaluate access .evaluate (harnessText code)) with
  | .ok answer => Job.ofExcept (parsed answer)
  | .error f =>
    if isAbort f then
      Job.log .info .javascript ("Evaluation of user-code.js aborted: " ++ f.text)
      let error : Datum := if f.text.isEmpty then .null else .text f.text
      let console ← readConsole access
      let fields ← Job.ofExcept (updates console)
      return .record (overlay [("ok", .boolean false), ("error", error)] fields)
    else Job.fail f

/-- Console lines, where an empty value counts as none. -/
def linesOf (outcome : Datum) (name : Text) : Datum :=
  let d := outcome.field name
  if d.truthy then d else .list []

/-- Run a snippet in the session's context. -/
def execute (access : ContextAccess κ) (code : Option Text) : SessionJob κ RunResult := do
  if !(← Job.host).isOpen then
    Job.fail (.classified .evaluation "QuickJS context has already been disposed" none)
  else
    let code := code.getD ""
    let _ ← evaluate access .install consoleText
    Job.log .debug .javascript
      ("Evaluating user-code.js (" ++ toString code.length ++ " chars)")
    match ← outcomeOf access code with
    | .record fields =>
      let outcome := Datum.record fields
      Job.ofExcept (buildResult outcome (linesOf outcome "logs") (linesOf outcome "errors"))
    | d => Job.fail (.unexpected .missingAttribute
        ("'" ++ d.className ++ "' object has no attribute 'get'"))

/-- Give the context up. -/
def dispose (access : ContextAccess κ) : SessionJob κ Unit :=
  Job.modifyHost fun s => if s.isOpen then ⟨access.collect s.context, false⟩ else s

/-- The engine over a context. -/
def engine (access : ContextAccess κ) : Engine (Session κ) where
  execute code _ := execute access code
  dispose := dispose access

/-- The executor of script snippets. -/
def executor {σ : Type} (build : Job σ (Engine σ)) : Executor σ where
  runtime := runtime
  language := "javascript"
  hasInput code _ := Executor.hasCode code
  build := build
  run e code _ := e.perform code .nothing

end SnippetService.Snippet
