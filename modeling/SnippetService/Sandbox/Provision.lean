import SnippetService.Execution.Journal
import SnippetService.Execution.RunResult
import SnippetService.Service.Settings
/-!
Asking for a remote sandbox: with a key of its own or that of the environment, and for a limited time.
-/
namespace SnippetService.Sandbox

/-- How sandboxes are asked for. -/
structure Provision where
  apiKey : Datum := .null
  timeout : Datum := .integer 60

namespace Provision

/-- What a sandbox is asked for with. -/
def arguments (p : Provision) (env : Environment) : List (Text × Datum) :=
  let key := if p.apiKey.truthy then p.apiKey else ((remoteKey env).map fun s => Datum.text s).getD .null
  [("api_key", key), ("timeout", p.timeout)]

/-- A sandbox that was had: its name, if it has one. -/
abbrev Created := Option Text

/-- Ask for a sandbox; `answer` is what the request for one comes to. -/
def create {σ : Type} (answer : Except Failure Created) : Job σ Unit := do
  match answer with
  | .ok name =>
    Job.log .info .python ("Provisioned E2B sandbox " ++ name.getD "<unknown>")
  | .error f =>
    if f.isAnswerable then
      Job.fail (.classified .provisioning (orElseText f.text "Failed to create E2B sandbox") none)
    else Job.fail f

end Provision

end SnippetService.Sandbox
