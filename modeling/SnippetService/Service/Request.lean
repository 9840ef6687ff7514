import SnippetService.Service.Field
import SnippetService.Text.Blank
/-!
Requests to execute a snippet. Some fields have more than one name; the first that is there counts.
-/
namespace SnippetService

structure Request where
  code : Text := ""
  /-- The tag of the language. -/
  language : Option Text := none
  /-- A binary module in base64. -/
  precompiled : Option Text := none
  /-- The exported function to call. -/
  entryPoint : Option Text := none
  /-- Numbers to call it with. -/
  args : List Datum := []

namespace Request

/-- The names of the field for a module, the preferred one first. -/
def precompiledNames : List String := ["precompiledBytes", "wasmBytes", "precompiled_bytes"]

/-- The names of the field for the entry point, the preferred one first. -/
def entryPointNames : List String := ["entryPoint", "functionName", "entry_point"]

/-- The first field of a record that has one of some names. -/
def findField (fields : List (Text × Datum)) (names : List String) : Option (String × Datum) :=
  names.findSome? fun name => (fields.lookup (Text.ofString name)).map fun d => (name, d)

/-- Read a field under one of its names; a field that is not there has a default. -/
def readField {α : Type} (fields : List (Text × Datum)) (names : List String)
    (read : Datum → Checked α) (default : α) : Checked α :=
  match findField fields names with
  | some (name, d) => (read d).within (.field name)
  | none => .ok default

/-- Read a list of numbers. -/
def numbers (d : Datum) : Checked (List Datum) := do
  Checked.items Field.number 0 (← Field.list d)

/-- The request that fields describe, or all that is wrong with them. -/
def ofFields (fields : List (Text × Datum)) : Checked Request :=
  let optionalText := Checked.optional Field.text
  let parts :=
    (readField fields ["code"] Field.text "").both <|
    (readField fields ["language"] optionalText none).both <|
    (readField fields precompiledNames optionalText none).both <|
    (readField fields entryPointNames optionalText none).both <|
    readField fields ["args"] numbers []
  parts.map fun (code, language, precompiled, entryPoint, args) =>
    { code, language, precompiled, entryPoint, args }

/-- The request that a value describes. -/
def read (d : Datum) (noRecord : IssueKind) : Checked Request :=
  match d with
  | .record fields => ofFields fields
  | d => .fail noRecord d

/-- Whether a request carries a module. -/
def hasBinary (r : Request) : Bool := (r.precompiled.map (!·.isEmpty)).getD false

/-- Whether a request carries anything to run. -/
def hasInput (r : Request) : Bool := !isBlankText r.code || r.hasBinary

/-- A text that may be missing. -/
def optionalDatum (s : Option Text) : Datum := (s.map Datum.text).getD .null

/-- A request as a record. -/
def toDatum (r : Request) : Datum :=
  .record [("code", .text r.code), ("language", optionalDatum r.language),
    ("precompiledBytes", optionalDatum r.precompiled), ("entryPoint", optionalDatum r.entryPoint),
    ("args", .list r.args)]

end Request

end SnippetService
