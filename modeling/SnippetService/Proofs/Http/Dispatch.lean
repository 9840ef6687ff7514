import SnippetService.Proofs.Http.Backends
import SnippetService.Sandbox.Prepared
/-!
What is sent in answer to a request to execute a snippet. The backend is guarded, but the path is told before, and the
result is written as an envelope behind the guard; so a path that cannot be told, and a result that cannot be written,
break the whole answer down.
-/
namespace SnippetService.Http

open Job

variable {κ σ : Type}

/-- The tag for a request, as its destination or the request itself gives it; there is none where nothing is
executed. -/
def Destination.tag? (d : Destination) (r : Request) : Option (Option Text) :=
  match d with
  | .route .execute => some r.language
  | .route (.executeIn tag) => some (some tag)
  | _ => none

namespace Application

/-- A request that is let in and asks for a snippet to be executed by a family that is offered. -/
structure Accepts (a : Application σ) (i : Incoming) (r : Request) (f : Family) : Prop where
  method : i.method = "POST"
  admitted : a.admits i = true
  valid : readRequest i = .ok r
  routed : ∃ tag, (Destination.of i.method i.path).tag? r = some tag ∧
    Family.resolve tag r.hasBinary = some f

/-- What is on record when the backend is asked. -/
def executing (f : Family) (r : Request) (j : Journal σ) : Journal σ :=
  j.logged [⟨.info, .service, executingNote f r⟩]

/-- What is on record when a request has come in. -/
def arrived (i : Incoming) (path : String) (j : Journal σ) : Journal σ :=
  let subject := i.method ++ " " ++ path
  j.logged [⟨.info, .service, "Incoming request: " ++ subject ++ " from " ++ i.client⟩]

/-- The status of an envelope. -/
def statusOf (f : Family) (r : Request) : Nat := if carriesInput f r then 200 else 400

section

variable {a : Application σ} {f : Family} {b : Backend σ} {r : Request} {t : Moment} {j : Journal σ}
  {result : RunResult}

/-- A result that fits is sent as an envelope. -/
theorem run_fits (hFits : result.Fits a.envelopeLimits)
    (hResult : (ending (b.execute t (some r.code) (optionsOf r)) (executing f r j)).1 = .ok result) :
    ∃ reply, (ending (a.run t f b r) j).1 = .ok reply ∧ reply.IsEnvelope (statusOf f r) := by
  obtain ⟨error, hError⟩ : ∃ error, Checked.optional Field.text result.error = .ok error := by
    have hReads := hFits.error
    cases hText : Checked.optional Field.text result.error with
    | ok error => exact ⟨error, rfl⟩
    | error issues =>
        rw [hText] at hReads
        cases hReads
  obtain ⟨reply, hReply, hEnvelope⟩ :=
    a.envelopeReply_written (statusOf f r) ((Envelope.fits_iff_written b.language hError).mp hFits)
  refine ⟨reply, ?_, hEnvelope⟩
  unfold executing at hResult
  rw [statusOf] at hReply
  simp [run, note, hResult, envelopeOf_ok b hError, hReply]

end

/-- A request that is accepted is executed by the backend of its family. -/
theorem serve_accepted {a : Application σ} {i : Incoming} {r : Request} {f : Family} {b : Backend σ}
    (hAccepts : a.Accepts i r f) (hBackend : a.backends f = some b) (t : Moment) :
    a.serve t i = a.run t f b r := by
  obtain ⟨tag, hTag, hFamily⟩ := hAccepts.routed
  have hDispatch : a.dispatch t r tag = a.run t f b r := by
    simp [dispatch, backend?, hFamily, hBackend]
  unfold Destination.tag? at hTag
  split at hTag
  · rename_i hExecute
    cases hTag
    simpa [serve, hExecute, executeBody, hAccepts.valid] using hDispatch
  · rename_i named hExecute
    cases hTag
    simpa [serve, hExecute, executeBody, hAccepts.valid] using hDispatch
  · cases hTag

/-- A request whose path cannot be told comes to nothing: the service breaks down before it is looked at. -/
theorem ending_handle_untold (a : Application σ) {i : Incoming} (hPath : i.shownPath? = none) (t : Moment)
    (j : Journal σ) : ending (a.handle t i) j = (.ok (Reply.breakdown.forMethod i.method), j) := by
  simp [handle, answer, hPath]

/-- What is sent in answer to a request that is accepted: the reply of the run, or what is said when the service
itself fails. -/
theorem ending_handle {a : Application σ} {i : Incoming} {r : Request} {f : Family} {b : Backend σ} {path : String}
    (hAccepts : a.Accepts i r f) (hBackend : a.backends f = some b) (hPath : i.shownPath? = some path) (t : Moment)
    (j : Journal σ) :
    (ending (a.handle t i) j).1 =
      match (ending (a.run t f b r) (arrived i path j)).1 with
      | .ok reply => .ok reply
      | .error failure => if failure.isAnswerable then .ok .breakdown else .error failure := by
  have hMethod (reply : Reply) : reply.forMethod i.method = reply := by
    rw [hAccepts.method]
    rfl
  simp only [handle, answer, hPath, answerAt, ending_bind, note, ending_log, hAccepts.admitted, Bool.not_true,
    Bool.false_eq_true, ↓reduceIte, ending_outcome, serve_accepted hAccepts hBackend, arrived]
  cases (ending (a.run t f b r) _).1 with
  | ok reply => simp [hMethod, Except.map]
  | error failure => cases hAnswerable : failure.isAnswerable <;> simp [hMethod, hAnswerable]

/-- A request for a module that comes to no end. -/
structure IsEndless (p : Platform κ) (s : Settings) (chance : Chance) (r : Request) (f : Family) : Prop where
  family : f = .wasm
  given : (Wasm.executor (return Wasm.engine)).hasInput (some r.code) (optionsOf r) = true
  unending : p.moduleEnd s chance (some r.code) (optionsOf r) = .error Wasm.unending

/-- When the answer to a request can be written as an envelope, should there be one. Those to modules always can. What
a script comes to must be made of characters, and its outcome must not have an odd message. Code that is shown must be
made of characters, and code that is run in a sandbox must come to an end that fits. -/
def Presentable (p : Platform κ) (s : Settings) (provider : Option (Sandbox.Provider σ)) (key : Option String)
    (chance : Chance) (world : σ) (r : Request) : Family → Prop
  | .wasm => True
  | .javascript => Executor.hasCode (some r.code) = true →
      EndsLegibly (p.scriptEnd s chance (some r.code)) ∧
      ∀ session outcome, p.session s chance = .ok session →
        Snippet.Comes p.contexts.access r.code session.context outcome → ¬Snippet.HasOddMessage outcome
  | .python => Executor.hasCode (some r.code) = true →
      (Sandbox.isConfigured provider key = false → r.code.isPlain = true) ∧
      (Sandbox.isConfigured provider key = true → ∀ q, provider = some q →
        EndsFit p.envelopeLimits (q.codeEnd r.code world))

/-- The backend that the application has for a family. -/
def backendOf (p : Platform κ) (s : Settings) (python : Backend σ) : Family → Backend σ
  | .javascript => .scripts p s
  | .wasm => .modules p s
  | .python => python

theorem backends_ofSettings {p : Platform κ} {s : Settings} {f : Family} (hAllowed : f ∈ s.allowed)
    (python : Backend σ) : (ofSettings p s python).backends f = some (backendOf p s python f) := by
  cases f <;> simp [ofSettings, backendOf, hAllowed]

theorem display_number {d : Datum} (hNumber : d.IsNumber) : d.display.isPlain = true := by
  cases hNumber <;> exact Text.isPlain_ofString _

/-- The arguments of a request that is read are shown in characters. -/
theorem legible_args {i : Incoming} {r : Request} (hValid : readRequest i = .ok r) :
    Wasm.AreLegible (Wasm.argsOption (optionsOf r)) := by
  have hArgs : ∀ d ∈ r.args, d.IsNumber := by
    unfold readRequest at hValid
    split at hValid
    · cases hValid
    · split at hValid
      · cases hValid
      · cases hValid
      · rename_i d _
        cases hRead : Request.read d .notARecord with
        | error issues =>
            rw [hRead] at hValid
            cases hValid
        | ok read =>
            rw [hRead] at hValid
            cases hValid
            cases d with
            | record fields => exact Request.isNumber_args hRead
            | _ => cases hRead
  exact fun d hMem => display_number (hArgs d hMem)

section

variable {p : Platform κ} {s : Settings} {provider : Option (Sandbox.Provider σ)} {key : Option String} {i : Incoming}
  {r : Request} {f : Family}

variable (s key) in
/-- The backend of a family does not come back from a module that comes to no end. Otherwise it gives a result, which
fits exactly where the answer is presentable. -/
theorem backendOf_fits (hContexts : p.contexts.IsOrdinary) (hOrdinary : ∀ q, provider = some q → q.IsOrdinary)
    (hValid : readRequest i = .ok r) (f : Family) (t : Moment) (j : Journal σ) :
    let outcome := (ending ((backendOf p s (.remote provider key) f).execute t (some r.code) (optionsOf r)) j).1
    (IsEndless p s t.chance r f ∧ outcome = .error Wasm.unending) ∨
    (¬IsEndless p s t.chance r f ∧ ∃ result, outcome = .ok result ∧
      (result.Fits p.envelopeLimits ↔ Presentable p s provider key t.chance j.host r f)) := by
  intro outcome
  cases f with
  | javascript =>
      obtain ⟨result, hResult, hFits⟩ :=
        Backend.scripts_fits p.envelopeLimits p s t hContexts (some r.code) (optionsOf r) j
      refine .inr ⟨fun h => (nomatch h.family), result, hResult, hFits.trans (imp_congr_right fun _ => ?_)⟩
      exact p.fits_scriptEnd s t.chance (some r.code)
  | wasm =>
      rcases Backend.modules_fits p.envelopeLimits p s t (legible_args hValid) (some r.code) j with
        ⟨hGiven, hEnd, hOutcome⟩ | ⟨hEnds, result, hResult, hFits⟩
      · exact .inl ⟨⟨rfl, hGiven, hEnd⟩, hOutcome⟩
      · exact .inr ⟨fun h => hEnds ⟨h.given, h.unending⟩, result, hResult, iff_of_true hFits trivial⟩
  | python =>
      obtain ⟨result, hResult, hFits⟩ :=
        Backend.remote_fits p.envelopeLimits t key hOrdinary r.code (optionsOf r) j
      exact .inr ⟨fun h => (nomatch h.family), result, hResult, hFits⟩

theorem breakdown_not_envelope (status : Nat) : ¬Reply.breakdown.IsEnvelope status := by
  rintro ⟨fields, hSame, _⟩
  have hContent := congrArg Reply.content hSame
  cases hContent

variable (hContexts : p.contexts.IsOrdinary) (hOrdinary : ∀ q, provider = some q → q.IsOrdinary)
  (hAllowed : f ∈ s.allowed) (hAccepts : (ofSettings p s (.remote provider key)).Accepts i r f) (t : Moment)
  {j : Journal σ}

include hContexts hOrdinary hAllowed hAccepts

theorem handle_presentable {path : String} (hPath : i.shownPath? = some path) (hEnds : ¬IsEndless p s t.chance r f)
    (hPresentable : Presentable p s provider key t.chance j.host r f) :
    ∃ reply, (ending ((ofSettings p s (.remote provider key)).handle t i) j).1 = .ok reply ∧
      reply.IsEnvelope (statusOf f r) := by
  have hBackend := backends_ofSettings (p := p) hAllowed (Backend.remote provider key)
  rcases backendOf_fits s key hContexts hOrdinary hAccepts.valid f t
    (executing f r (arrived i path j)) with ⟨hEndless, -⟩ | ⟨-, result, hResult, hFits⟩
  · exact absurd hEndless hEnds
  · obtain ⟨reply, hReply, hEnvelope⟩ :=
      run_fits (a := ofSettings p s (.remote provider key)) (hFits.mpr hPresentable) hResult
    exact ⟨reply, by rw [ending_handle hAccepts hBackend hPath, hReply], hEnvelope⟩

end

/-- A request for the code `x`, in no language. -/
def plainRequest : Incoming where
  method := "POST"
  path := "/v1/execute"
  headers := [("content-type", "application/json")]
  body := [123, 34, 99, 111, 100, 101, 34, 58, 34, 120, 34, 125]
  client := "testclient"
  server := "testserver"

/-- The settings that an empty environment gives. -/
def plainSettings : Settings := ⟨"", Family.all, 128, 30, 30, 60, 20, 8080⟩

/-- A platform whose contexts answer nothing, and whose modules have little room. -/
def plainPlatform : Platform Unit where
  contexts := { access := { eval := fun _ _ c => (.ok none, c), collect := id }, fresh := fun _ _ _ => .ok () }
  surroundings _ := .small
  steps _ _ := 100
  envelopeLimits := ⟨250, 4300⟩
  issueLimits := ⟨900, 4300⟩

theorem plainPlatform_ordinary : plainPlatform.contexts.IsOrdinary where
  access _ _ _ := trivial
  fresh _ _ _ := trivial

/-- A moment in which the world adds nothing but zeros. -/
def plainMoment : Moment := ⟨7, fun _ => 0⟩

end Application

end SnippetService.Http
