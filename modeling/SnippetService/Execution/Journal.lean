import SnippetService.Data.Datum
import SnippetService.Execution.Failure
/-!
What is recorded while requests are handled: log records for the operator, and the acts performed on
engines. A job works on a host state and keeps both records, also when it fails.
-/
namespace SnippetService

inductive LogLevel where
  | debug | info | warning | error
  deriving DecidableEq

namespace LogLevel

/-- The number by which levels are compared. -/
def rank : LogLevel → Int
  | debug => 10
  | info => 20
  | warning => 30
  | error => 40

def name : LogLevel → String
  | debug => "DEBUG"
  | info => "INFO"
  | warning => "WARNING"
  | error => "ERROR"

end LogLevel

/-- The part of the service that writes a record. -/
inductive LogArea where
  | service | executor | javascript | wasm | python
  deriving DecidableEq

namespace LogArea

def name : LogArea → String
  | service => "polyexec"
  | executor => "polyexec.executor"
  | javascript => "polyexec.javascript"
  | wasm => "polyexec.wasm"
  | python => "polyexec.python"

end LogArea

structure LogRecord where
  level : LogLevel
  area : LogArea
  message : Text
  deriving DecidableEq

/-- A record as one line. -/
def LogRecord.line (r : LogRecord) : Text := r.level.name ++ " " ++ r.area.name ++ ": " ++ r.message

/-- The records of a level or above. -/
def LogRecord.atLevel (rank : Int) (records : List LogRecord) : List LogRecord :=
  records.filter fun r => rank ≤ r.level.rank

/-- What an engine is given beside the code. -/
inductive EngineInput where
  | nothing
  | binary (data : Option (List UInt8)) (entryPoint : Option Text) (args : List Datum)

/-- An act on an engine. -/
inductive EngineEvent where
  /-- An engine is asked for. -/
  | build
  | execute (code : Option Text) (input : EngineInput)
  | dispose

/-- A host state with what has been recorded so far. -/
structure Journal (σ : Type) where
  host : σ
  logs : List LogRecord := []
  events : List EngineEvent := []

/-- Work on a host state that may fail. -/
abbrev Job (σ α : Type) := EStateM Failure (Journal σ) α

namespace Job

variable {σ α : Type}

def log (level : LogLevel) (area : LogArea) (message : Text) : Job σ Unit :=
  modify fun j => { j with logs := j.logs ++ [⟨level, area, message⟩] }

def tell (e : EngineEvent) : Job σ Unit := modify fun j => { j with events := j.events ++ [e] }

def host : Job σ σ := return (← get).host

def setHost (h : σ) : Job σ Unit := modify fun j => { j with host := h }

def modifyHost (f : σ → σ) : Job σ Unit := modify fun j => { j with host := f j.host }

def fail (f : Failure) : Job σ α := throw f

/-- Do something, and give a failure as a result. -/
def outcome (job : Job σ α) : Job σ (Except Failure α) := fun j =>
  match job j with
  | .ok a j => .ok (.ok a) j
  | .error f j => .ok (.error f) j

/-- Do work on another host, made from this one, and put back what it leaves. All that it records is
kept. -/
def within {ρ : Type} (enter : σ → ρ) (leave : σ → ρ → σ) (job : Job ρ α) : Job σ α := fun j =>
  match job ⟨enter j.host, j.logs, j.events⟩ with
  | .ok a k => .ok a ⟨leave j.host k.host, k.logs, k.events⟩
  | .error f k => .error f ⟨leave j.host k.host, k.logs, k.events⟩

/-- A step that is not recorded. -/
def ofExcept (r : Except Failure α) : Job σ α :=
  match r with
  | .ok a => return a
  | .error f => fail f

end Job

end SnippetService
