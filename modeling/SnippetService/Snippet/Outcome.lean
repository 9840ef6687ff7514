import SnippetService.Execution.Failure
import SnippetService.Execution.RunResult
/-!
From the outcome of an evaluation and the console lines to a result. Lines of the error console are
part of the result's error, but they do not make a completed evaluation fail.
-/
namespace SnippetService.Snippet

/-- The label of the results of this backend. -/
def runtime : String := "QuickJS (Sandboxed)"

def resultPrefix : String := "→ "

def unknownError : String := "Unknown error"

def noOutput : String := "Code executed successfully (no output)"

def typeFailure (text : Text) : Failure := .unexpected .wrongType text

/-- The texts of a list; the first item that is none is a failure. -/
def textsFrom : Nat → List Datum → Except Failure (List Text)
  | _, [] => .ok []
  | i, .text s :: rest => (textsFrom (i + 1) rest).map (s :: ·)
  | i, d :: _ => .error (typeFailure
      ("sequence item " ++ toString i ++ ": expected str instance, " ++ d.className ++ " found"))

/-- Console lines, one below the other. What is not a list is taken apart as far as it goes. -/
def joined (lines : Datum) : Except Failure Text :=
  match lines with
  | .list items => (textsFrom 0 items).map joinLines
  | .text s => .ok (joinLines (s.map fun p => [p]))
  | .record fields => .ok (joinLines (fields.map (·.1)))
  | _ => .error (typeFailure "can only join an iterable")

/-- The text of the logged lines and of the completion value below them. -/
def outputText (logs value : Datum) : Except Failure Text := do
  let output ← if logs.truthy then joined logs else .ok ""
  match value with
  | .null => return output
  | v =>
    let shown := resultPrefix ++ v.display
    return if output.isEmpty then shown else output ++ "\n" ++ shown

/-- The error lines with the message of the evaluation below them. -/
def errorValue (errors message : Datum) : Except Failure Datum := do
  if !errors.truthy then return message
  else
    let lines ← joined errors
    if !message.truthy then return .text lines
    else match message with
      | .text s => return .text (lines ++ "\n" ++ s)
      | other => .error (typeFailure
          ("can only concatenate str (not \"" ++ other.className ++ "\") to str"))

/-- The result of an evaluation. -/
def buildResult (outcome logs errors : Datum) : Except Failure RunResult := do
  let success := (outcome.field "ok").truthy
  let output ← if success then outputText logs (outcome.field "value") else .ok ""
  let message : Datum :=
    if success then .text ""
    else
      let e := outcome.field "error"
      if e.truthy then e else .text unknownError
  let error ← errorValue errors message
  return {
    success := success
    output := if output.isEmpty then (if success then some noOutput else none) else some output
    error := if error.truthy then error else .null
    runtime := runtime }

end SnippetService.Snippet
