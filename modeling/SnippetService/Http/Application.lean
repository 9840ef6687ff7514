import SnippetService.Http.Body
import SnippetService.Http.Reply
import SnippetService.Http.Route
import SnippetService.Service.Backend
import SnippetService.Service.Envelope
/-!
The application: it asks for the key, finds the destination of a request, has the snippet executed by the
backend of its family, and answers with an envelope.
-/
namespace SnippetService.Http

structure Application (σ : Type) where
  settings : Settings
  backends : Family → Option (Backend σ)
  /-- How much of an envelope can be written. -/
  envelopeLimits : WriteLimits
  /-- How much of the issues of a body can be written. -/
  issueLimits : WriteLimits

namespace Application

variable {σ κ : Type}

/-- The backends of the families that are allowed. -/
def ofSettings (p : Platform κ) (s : Settings) (python : Backend σ) : Application σ where
  settings := s
  backends f :=
    if s.allowed.contains f then
      some (match f with
        | .javascript => .scripts p s
        | .wasm => .modules p s
        | .python => python)
    else none
  envelopeLimits := p.envelopeLimits
  issueLimits := p.issueLimits

/-- The application with another backend for a family. -/
def withBackend (a : Application σ) (f : Family) (b : Backend σ) : Application σ :=
  { a with backends := fun g => if g = f then some b else a.backends g }

/-- Record something of the service itself. -/
def note (level : LogLevel) (message : Text) : Job σ Unit := Job.log level .service message

/-- Tell the settings. -/
def start (a : Application σ) : Job σ Unit := note .info a.settings.summary

/-- What a backend is given beside the code. -/
def optionsOf (r : Request) : Options :=
  [("wasm_base64", Request.optionalDatum r.precompiled),
    ("entry_point", Request.optionalDatum r.entryPoint), ("args", .list r.args)]

/-- A truth value as records show it. -/
def shownTruth (b : Bool) : Text := (Datum.boolean b).shown

def executingNote (f : Family) (r : Request) : Text :=
  "Executing " ++ f.name ++ " request (" ++ toString r.code.length ++ " chars, binary=" ++
    shownTruth r.precompiled.isSome ++ ")"

def finishedNote (f : Family) (e : Envelope) : Text :=
  "Execution finished: language=" ++ f.name ++ ", success=" ++ shownTruth e.success ++
    ", runtime=" ++ e.runtime ++ ", time_ms=" ++ ((e.elapsed.map Datum.integer).getD .null).shown

/-- Whether a request carries anything that its family can run. -/
def carriesInput (f : Family) (r : Request) : Bool :=
  if f = .wasm then r.hasInput else !isBlankText r.code

/-- A failure of the service itself. -/
def fault (text : Text) : Failure := .unexpected .value text

/-- The envelope of a result. -/
def envelopeOf (b : Backend σ) (r : RunResult) : Except Failure Envelope := do
  match ← Envelope.ofLoose r.loose (.text b.language) with
  | .ok e => return e
  | .error _ => throw (fault "The result does not fit the envelope")

/-- The reply that carries an envelope. -/
def envelopeReply (a : Application σ) (status : Nat) (e : Envelope) : Except Failure Reply :=
  match e.written a.envelopeLimits with
  | some e => .ok ⟨status, .json e.toDatum⟩
  | none => .error (fault "The envelope has no form as JSON")

/-- Have a request executed by the backend of its family. -/
def run (a : Application σ) (t : Moment) (f : Family) (b : Backend σ) (r : Request) : Job σ Reply := do
  note .info (executingNote f r)
  match ← Job.outcome (b.execute t (some r.code) (optionsOf r)) with
  | .error failure =>
    if failure.isAnswerable then
      note .error ("Unhandled error during execution: " ++ failure.text)
      return .refusal 500 "Execution error"
    else Job.fail failure
  | .ok result =>
    let e ← Job.ofExcept (envelopeOf b result)
    note .info (finishedNote f e)
    Job.ofExcept (a.envelopeReply (if carriesInput f r then 200 else 400) e)

/-- The backend for a tag, if it stands for a family that is there. -/
def backend? (a : Application σ) (tag : Option Text) (hasBinary : Bool) :
    Option (Family × Backend σ) := do
  let f ← Family.resolve tag hasBinary
  return (f, ← a.backends f)

/-- What is wrong with a tag that stands for no family. -/
def unsupported (tag : Option Text) : Text := "Unsupported language: " ++ (Request.optionalDatum tag).display

/-- The reply to a request whose tag stands for no family. -/
def unsupportedReply (tag : Option Text) : Except Failure Reply :=
  if (unsupported tag).isPlain then .ok (.refusal 400 (unsupported tag))
  else .error (fault "The detail has no form as JSON")

/-- Execute a request in the language of a tag. -/
def dispatch (a : Application σ) (t : Moment) (r : Request) (tag : Option Text) : Job σ Reply := do
  match a.backend? tag r.hasBinary with
  | some (f, b) => a.run t f b r
  | none =>
    note .warning (unsupported tag)
    Job.ofExcept (unsupportedReply tag)

/-- The reply to a body with issues. -/
def issuesReply (a : Application σ) (issues : List Issue) : Except Failure Reply :=
  match a.issueLimits.written none (.list (issues.map Issue.full)) with
  | some d => .ok ⟨422, .json (.record [("detail", d)])⟩
  | none => .error (fault "The issues have no form as JSON")

/-- Execute the request in a body; `tag` is the one of the path. -/
def executeBody (a : Application σ) (t : Moment) (i : Incoming) (tag : Option Text) : Job σ Reply := do
  match readRequest i with
  | .error .unreadable => return .refusal 400 "There was an error parsing the body"
  | .error (.invalid issues) => Job.ofExcept (a.issuesReply issues)
  | .ok r => a.dispatch t r (tag <|> r.language)

/-- Answer a request of a client that has been admitted. -/
def serve (a : Application σ) (t : Moment) (i : Incoming) : Job σ Reply :=
  match Destination.of i.method i.path with
  | .route .health => return ⟨200, .json (.record [("status", .text "ok")])⟩
  | .route .execute => a.executeBody t i none
  | .route (.executeIn tag) => a.executeBody t i (some tag)
  | .wrongMethod => return .refusal 405 "Method Not Allowed"
  | .elsewhere => return ⟨307, .plain ""⟩
  | .unknown => return .refusal 404 "Not Found"

/-- Whether a request may come in. -/
def admits (a : Application σ) (i : Incoming) : Bool :=
  a.settings.apiKey.isEmpty || i.header? "x-api-key" == some a.settings.apiKey

/-- Answer a request whose path can be told. Where the service itself fails, the client is told no more than that. -/
def answerAt (a : Application σ) (t : Moment) (i : Incoming) (path : String) : Job σ Reply := do
  let subject := i.method ++ " " ++ path
  note .info ("Incoming request: " ++ subject ++ " from " ++ i.client)
  if !a.admits i then
    note .warning ("Invalid API key for " ++ subject ++ " from " ++ i.client)
    return .refusal 401 "Invalid API key"
  else
    match ← Job.outcome (a.serve t i) with
    | .ok reply =>
      note .info ("Response: " ++ subject ++ " -> " ++ toString reply.status)
      return reply
    | .error f => if f.isAnswerable then return .breakdown else Job.fail f

/-- Answer a request. The path is told before anything else is done, and where it cannot be the service has failed. -/
def answer (a : Application σ) (t : Moment) (i : Incoming) : Job σ Reply :=
  match i.shownPath? with
  | some path => a.answerAt t i path
  | none => return .breakdown

/-- What is sent in answer to a request. -/
def handle (a : Application σ) (t : Moment) (i : Incoming) : Job σ Reply := do
  return (← a.answer t i).forMethod i.method

end Application

end SnippetService.Http
