import SnippetService.Execution.Executor
import SnippetService.Sandbox.Run
/-!
Running code in remote sandboxes. Each request has a session of its own, which is released when the
request is over. Without a key nothing is sent anywhere, and the answer says so.
-/
namespace SnippetService.Sandbox

/-- How sessions are had, used and released. -/
structure Provider (κ : Type) where
  create : κ → Except Failure Unit × κ
  run : Text → κ → Except Failure Run × κ
  kill : κ → Except Failure Unit × κ

/-- The world behind the provider, and whether a session is held. -/
structure Session (κ : Type) where
  world : κ
  isHeld : Bool := false

variable {κ : Type}

abbrev SessionJob (κ α : Type) := Job (Session κ) α

/-- Act on the world behind the provider. -/
def onWorld {α : Type} (act : κ → Except Failure α × κ) : SessionJob κ α := do
  let s ← Job.host
  let (r, world) := act s.world
  Job.setHost { s with world := world }
  Job.ofExcept r

/-- Submit code once. -/
def execute (provider : Provider κ) (code : Option Text) : SessionJob κ RunResult := do
  if !(← Job.host).isHeld then
    Job.fail (.classified .provisioning "Sandbox session has already been released" none)
  else
    let r ← onWorld (provider.run (code.getD ""))
    return r.result

/-- Release the session. It counts as released even if that fails. -/
def dispose (provider : Provider κ) : SessionJob κ Unit := do
  if (← Job.host).isHeld then
    Job.modifyHost fun s => { s with isHeld := false }
    onWorld provider.kill
    Job.log .info .python "Released sandbox session"
  else return

/-- The engine for the session that is held. -/
def engine (provider : Provider κ) : Engine (Session κ) where
  execute code _ := execute provider code
  dispose := dispose provider

/-- A fresh session. -/
def build (provider : Option (Provider κ)) : SessionJob κ (Engine (Session κ)) := do
  match provider with
  | none => Job.fail (.classified .provisioning "No sandbox factory configured" none)
  | some provider =>
    onWorld provider.create
    Job.modifyHost fun s => { s with isHeld := true }
    return engine provider

def demoRuntime : String := "Demo Mode"

/-- What is answered in the place of a run. -/
def demoOutput (code : Text) : Text :=
  "[Demo Mode] Python code execution is simulated.\n\n" ++
    "Code:\n" ++ code ++ "\n\n" ++
    "Note: Set E2B_API_KEY environment variable to enable real code execution."

/-- The answer without a session. -/
def demoResult (code : Text) : RunResult where
  success := true
  output := some (demoOutput code)
  error := .null
  runtime := demoRuntime

/-- Whether sessions can be had: there is a way to them, and a key. -/
def isConfigured (provider : Option (Provider κ)) (key : Option String) : Bool :=
  provider.isSome && (key.map (!·.isEmpty)).getD false

/-- The executor of remote code; the key is that of the moment. -/
def executor (provider : Option (Provider κ)) (key : Option String) : Executor (Session κ) where
  runtime := runtime
  language := "python"
  hasInput code _ := Executor.hasCode code
  preflight code _ := do
    if isConfigured provider key then return none
    else
      Job.log .info .python "No E2B credential configured; answering in demo mode"
      return some (demoResult (code.getD ""))
  build := build provider
  run e code _ := e.perform code .nothing

end SnippetService.Sandbox
