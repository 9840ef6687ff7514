import SnippetService.Data.Wire
import SnippetService.Execution.RunResult
import SnippetService.Execution.Failure
import SnippetService.Service.Field
/-!
The envelope of answers. A result is brought into one shape: a failed run carries no output, and a time
is never negative.
-/
namespace SnippetService

/-- A result whose fields have not been checked. -/
structure LooseResult where
  success : Datum := .boolean true
  output : Datum := .null
  error : Datum := .null
  runtime : Datum := .text ""
  elapsed : Datum := .null
  hint : Datum := .null
  results : Datum := .null

/-- An answer to a client. -/
structure Envelope where
  success : Bool
  output : Option Text
  error : Option Text
  runtime : Text
  language : Text
  elapsed : Option Int
  hint : Option Text
  results : Option (List Datum)

/-- A result, forgetting what is known of its fields. -/
def RunResult.loose (r : RunResult) : LooseResult where
  success := .boolean r.success
  output := (r.output.map Datum.text).getD .null
  error := r.error
  runtime := .text r.runtime
  elapsed := (r.elapsed.map fun n => .integer n).getD .null
  hint := (r.hint.map Datum.text).getD .null
  results := (r.results.map Datum.list).getD .null

namespace Envelope

/-- The greater of a time and zero; a time that is no number cannot be compared. -/
def atLeastZero (d : Datum) : Except Failure Datum :=
  match d with
  | .null => .ok .null
  | .integer n => .ok (.integer (max n 0))
  | .boolean b => .ok (.boolean b)
  | .real x => .ok (if x < 0.0 then .integer 0 else d)
  | d => .error (.unexpected .wrongType
      ("'>' not supported between instances of 'int' and '" ++ d.className ++ "'"))

/-- Check the fields of an envelope; all that is wrong is told. -/
def check (r : LooseResult) (language : Datum) : Checked Envelope :=
  let field {α : Type} (name : String) (read : Datum → Checked α) (d : Datum) : Checked α :=
    (read d).within (.field name)
  let optionalText := Checked.optional Field.text
  let parts :=
    (field "success" Field.truthValue r.success).both <|
    (field "output" optionalText r.output).both <|
    (field "error" optionalText r.error).both <|
    (field "runtime" Field.text r.runtime).both <|
    (field "language" Field.text language).both <|
    (field "execution_time_ms" (Checked.optional Field.whole) r.elapsed).both <|
    (field "hint" optionalText r.hint).both <|
    field "results" (Checked.optional Field.list) r.results
  parts.map fun (success, output, error, runtime, language, elapsed, hint, results) =>
    { success, output, error, runtime, language, elapsed, hint, results }

/-- The envelope of a result, or what is wrong with its fields. -/
def ofLoose (r : LooseResult) (language : Datum) : Except Failure (Checked Envelope) := do
  let elapsed ← atLeastZero r.elapsed
  return check { r with output := if r.success.truthy then r.output else .null, elapsed := elapsed }
    language

/-- The texts of an envelope. -/
def texts (e : Envelope) : List Text :=
  e.output.toList ++ e.error.toList ++ [e.runtime, e.language] ++ e.hint.toList

/-- An envelope as JSON can hold it: its texts have to be characters, and its results have to fit the limits. Numbers
that are not finite become null. -/
def written (limits : WriteLimits) (e : Envelope) : Option Envelope :=
  if e.texts.all Text.isPlain then
    match e.results with
    | none => some e
    | some ds => (wireItems limits (some .null) limits.depth ds).map fun ds => { e with results := some ds }
  else none

/-- An envelope as a record. -/
def toDatum (e : Envelope) : Datum :=
  let text (s : Option Text) : Datum := (s.map Datum.text).getD .null
  .record [("success", .boolean e.success), ("output", text e.output), ("error", text e.error),
    ("runtime", .text e.runtime), ("language", .text e.language),
    ("executionTimeMs", (e.elapsed.map Datum.integer).getD .null), ("hint", text e.hint),
    ("results", (e.results.map Datum.list).getD .null)]

end Envelope

end SnippetService
