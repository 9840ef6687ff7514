import SnippetService.Execution.RunResult
/-!
What a remote sandbox gives back for a piece of code, and the result that is made of it.
-/
namespace SnippetService.Sandbox

def runtime : String := "E2B (Cloud Sandbox)"

def noOutput : String := "Code executed successfully (no output)"

/-- A run of code in a sandbox. -/
structure Run where
  stdout : List Text := []
  stderr : List Text := []
  /-- The name of the error that ended the run. -/
  error : Option Datum := none
  results : Option (List Datum) := some []

/-- The attributes of rich results that are passed on. -/
def resultFields : List Text :=
  ["text", "html", "markdown", "svg", "png", "jpeg", "pdf", "latex", "json", "javascript",
    "is_main_result"]

/-- The attributes that are passed on, leaving out those that are null. -/
def payload (attributes : List (Text × Datum)) : List (Text × Datum) :=
  resultFields.filterMap fun name =>
    match attributes.lookup name with
    | none | some .null => none
    | some d => some (name, d)

/-- A result as plain data. Plain data stays as it is; of an object its known attributes are kept, and an
object without any is replaced by its text. -/
def serialize (d : Datum) : Datum :=
  match d with
  | .object attributes shown =>
    match payload attributes with
    | [] => .text shown
    | fields => .record fields
  | .bytes _ => .text d.shown
  | d => d

/-- What went wrong: the name of the error, or what was written to the error channel. -/
def Run.errorDatum (r : Run) : Datum :=
  let written : Datum := ((nonempty? (joinLines r.stderr)).map Datum.text).getD .null
  match r.error with
  | some name => if name.truthy then name else written
  | none => written

/-- The result of a run. -/
def Run.result (r : Run) : RunResult where
  success := r.error.isNone
  output := some (orElseText (joinLines r.stdout) noOutput)
  error := r.errorDatum
  runtime := runtime
  results := r.results.map fun ds => ds.map serialize

end SnippetService.Sandbox
