import SnippetService.Data.Wire
import SnippetService.Sandbox.Engine
import SnippetService.Service.Settings
import SnippetService.Snippet.Engine
import SnippetService.Wasm.Engine
/-!
What answers the requests of a family. Scripts and modules are run on hosts of their own, which are gone
when the request is over; remote code is run in the world outside.
-/
namespace SnippetService

/-- What the service stands on. -/
structure Platform (κ : Type) where
  contexts : Snippet.Contexts κ
  surroundings : Chance → Wasm.Surroundings
  /-- The steps that a module may take until a timer of so many seconds stops it. -/
  steps : Int → Chance → Nat
  /-- How much of an envelope can be written. -/
  envelopeLimits : WriteLimits
  /-- How much of the issues of a body can be written. -/
  issueLimits : WriteLimits

/-- The bytes of a megabyte. -/
def megabyte : Nat := 1048576

namespace Platform

variable {κ : Type}

/-- A new session for a script. -/
def session (p : Platform κ) (s : Settings) (chance : Chance) : Except Failure (Snippet.Session κ) :=
  (p.contexts.fresh s.scriptTime (s.maxMemory * megabyte) chance).map (⟨·, true⟩)

/-- A new engine for a module. -/
def machine (p : Platform κ) (s : Settings) (chance : Chance) : Wasm.EngineState where
  memoryLimit := some (s.maxMemory.toNat * megabyte)
  surroundings := p.surroundings chance
  steps := p.steps s.wasmTime chance

end Platform

/-- What answers the requests of a family. -/
structure Backend (σ : Type) where
  language : String
  execute : Moment → Option Text → Options → Job σ RunResult

namespace Backend

variable {σ κ : Type}

/-- An executor whose every request has a host of its own, or no engine where no host can be had. -/
def onFresh {ρ : Type} (language : String) (executor : (τ : Type) → Job τ (Engine τ) → Executor τ) (e : Engine ρ)
    (host : Chance → Except Failure ρ) : Backend σ where
  language := language
  execute t code options :=
    match host t.chance with
    | .ok h => Job.within (fun _ => h) (fun h _ => h) ((executor ρ (return e)).execute t.elapsed code options)
    | .error f => (executor σ (Job.fail f)).execute t.elapsed code options

/-- The backend of scripts. -/
def scripts (p : Platform κ) (s : Settings) : Backend σ :=
  onFresh Family.javascript.name (fun _ => Snippet.executor) (Snippet.engine p.contexts.access) (p.session s)

/-- The backend of modules. -/
def modules (p : Platform κ) (s : Settings) : Backend σ :=
  onFresh Family.wasm.name (fun _ => Wasm.executor) Wasm.engine fun chance => .ok (p.machine s chance)

/-- The backend of remote code. -/
def remote (provider : Option (Sandbox.Provider σ)) (key : Option String) : Backend σ where
  language := Family.python.name
  execute t code options :=
    Job.within (fun world => ⟨world, false⟩) (fun _ session => session.world)
      ((Sandbox.executor provider key).execute t.elapsed code options)

/-- A backend that always fails. -/
def broken (language : String) (f : Failure) : Backend σ where
  language := language
  execute _ _ _ := Job.fail f

end Backend

end SnippetService
