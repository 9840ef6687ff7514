import SnippetService.Proofs.Execution.Factories
import SnippetService.Proofs.Http.Dispatch
import SnippetService.Proofs.Service.Family
/-!
Requests that carry nothing to run. Whether a request does is asked twice, by the coordinator and when the status of
the envelope is chosen. Both ask the same: the status says that the request was bad exactly where the coordinator has
turned it down and has done nothing for it.
-/
namespace SnippetService

open Job

variable {κ σ : Type}

/-- A call that is accepted asks for an engine first. -/
theorem Course.asks {built : Bool} {trace : List EngineEvent} (h : Course true built trace) :
    ∃ rest, trace = .build :: rest := by
  cases h <;> exact ⟨_, rfl⟩

/-- A call that goes as far as to ask for an engine tells the time. -/
theorem Executor.elapsed_of_attempted {x : Executor σ} {elapsed : Nat} {code : Option Text}
    {options : Options} {j k : Journal σ} {r : RunResult} (hInput : x.hasInput code options = true)
    (hNone : ending (x.preflight code options) j = (.ok none, k))
    (hEnd : (ending (x.execute elapsed code options) j).1 = .ok r) : r.elapsed = some elapsed := by
  rw [ending_execute_attempted hInput hNone] at hEnd
  cases hAttempt : (ending (x.attempt code options) k).1 with
  | error f =>
      rw [hAttempt] at hEnd
      cases hEnd
  | ok answer =>
      rw [hAttempt] at hEnd
      cases answer with
      | error f => cases hEnd
      | ok result =>
          cases hEnd
          rfl

namespace Backend

/-- How a request that is answered has been dealt with, by the journals before and after. -/
inductive Treats (elapsed : Nat) (j k : Journal σ) : (given : Bool) → RunResult → Prop where
  /-- There is nothing to run, and nothing has been done. -/
  | rejected {runtime : Text} (untouched : k.events = j.events ∧ k.host = j.host)
      (live : runtime ≠ Sandbox.demoRuntime) :
      Treats elapsed j k false (.failure runtime Executor.noCodeError none)
  /-- The code is shown and not run. -/
  | shown {result : RunResult} (demo : result.runtime = Sandbox.demoRuntime)
      (timed : result.elapsed = some elapsed) : Treats elapsed j k true result
  /-- An engine has been asked for. -/
  | attempted {result : RunResult} {rest : List EngineEvent}
      (asked : k.events = j.events ++ .build :: rest) (timed : result.elapsed = some elapsed) :
      Treats elapsed j k true result

/-- A request that carries nothing is told from the others by what is on record and by the time. -/
theorem Treats.rejected_iff {elapsed : Nat} {j k : Journal σ} {given : Bool} {result : RunResult}
    (hTreats : Treats elapsed j k given result) :
    (given = false ↔ k.events = j.events ∧ result.runtime ≠ Sandbox.demoRuntime) ∧
    (given = false ↔ result.elapsed = none) ∧
    (given = false → k.host = j.host ∧ result = .failure result.runtime Executor.noCodeError none) := by
  cases hTreats with
  | rejected untouched live =>
      exact ⟨iff_of_true rfl ⟨untouched.1, live⟩, iff_of_true rfl rfl, fun _ => ⟨untouched.2, rfl⟩⟩
  | shown demo timed =>
      refine ⟨iff_of_false nofun fun h => h.2 demo, iff_of_false nofun ?_, nofun⟩
      rw [timed]
      nofun
  | attempted asked timed =>
      refine ⟨iff_of_false nofun ?_, iff_of_false nofun ?_, nofun⟩
      · rintro ⟨hSame, _⟩
        rw [asked] at hSame
        simp at hSame
      · rw [timed]
        nofun

section

variable {ρ : Type} {e : Engine ρ} {t : Moment} {code : Option Text} {options : Options} {j : Journal σ}

/-- A request that carries nothing leaves the world as it is. -/
theorem host_onFresh_rejected (k : Coordinator) (language : String) (host : Chance → Except Failure ρ)
    (hInput : (k.executor (return e)).hasInput code options = false) :
    (after ((onFresh language (fun _ => k.executor) e host).execute t code options) j).host = j.host := by
  unfold onFresh
  dsimp only
  cases host t.chance with
  | ok h =>
      dsimp only
      rw [after, ending_within, Journal.hosting_host]
  | error f =>
      rw [k.hasInput_executor (return e) (Job.fail f)] at hInput
      rw [after, Executor.ending_execute_rejected hInput]

/-- A request that carries something is answered with the time, on a host or without one. -/
theorem elapsed_onFresh (k : Coordinator) (language : String) (host : Chance → Except Failure ρ)
    (hInput : (k.executor (return e)).hasInput code options = true) {result : RunResult}
    (hEnd : (ending ((onFresh language (fun _ => k.executor) e host).execute t code options) j).1 = .ok result) :
    result.elapsed = some t.elapsed := by
  have hNone {τ : Type} (build : Job τ (Engine τ)) (l : Journal τ) :
      ending ((k.executor build).preflight code options) l = (.ok none, l) := by
    rw [(k.frugal build).preflight, ending_pure]
  unfold onFresh at hEnd
  dsimp only at hEnd
  cases hHost : host t.chance with
  | ok h =>
      rw [hHost] at hEnd
      dsimp only at hEnd
      rw [ending_within] at hEnd
      exact Executor.elapsed_of_attempted hInput (hNone _ _) hEnd
  | error f =>
      rw [hHost] at hEnd
      rw [k.hasInput_executor (return e) (Job.fail f)] at hInput
      exact Executor.elapsed_of_attempted hInput (hNone _ _) hEnd

/-- A coordinator that works with any engine either turns a request down or asks for an engine. -/
theorem treats_onFresh (k : Coordinator) (language : String) (hQuiet : e.Quiet) (host : Chance → Except Failure ρ)
    (hLive : (k.executor (return e)).runtime ≠ Sandbox.demoRuntime) {result : RunResult}
    (hEnd : (ending ((onFresh language (fun _ => k.executor) e host).execute t code options) j).1 = .ok result) :
    Treats t.elapsed j (after ((onFresh language (fun _ => k.executor) e host).execute t code options) j)
      ((k.executor (return e)).hasInput code options) result := by
  obtain ⟨trace, hTrace, hCourse⟩ := onFresh_course k language hQuiet host t code options j
  cases hInput : (k.executor (return e)).hasInput code options with
  | false =>
      rw [ending_onFresh_rejected k language host options hInput] at hEnd
      cases hEnd
      rw [hInput] at hCourse
      cases hCourse
      rw [List.append_nil] at hTrace
      exact .rejected ⟨hTrace, host_onFresh_rejected k language host hInput⟩ (by simpa using hLive)
  | true =>
      rw [hInput] at hCourse
      obtain ⟨rest, rfl⟩ := hCourse.asks
      exact .attempted hTrace (elapsed_onFresh k language host hInput hEnd)

end

/-- The coordinator of remote code may also show the code. -/
theorem treats_remote (provider : Option (Sandbox.Provider κ)) (key : Option String) {t : Moment}
    {code : Text} {options : Options} {j : Journal κ} {result : RunResult}
    (hEnd : (ending ((remote provider key).execute t (some code) options) j).1 = .ok result) :
    Treats t.elapsed j (after ((remote provider key).execute t (some code) options) j)
      (Executor.hasCode (some code)) result := by
  simp only [remote, ending_within, after] at hEnd ⊢
  generalize hFresh : j.hosting (Sandbox.Session.mk j.host false) = k at hEnd ⊢
  have hEvents : k.events = j.events := by rw [← hFresh]; rfl
  cases hGiven : Executor.hasCode (some code) with
  | false =>
      have hRejected : (Sandbox.executor provider key).hasInput (some code) options = false := hGiven
      rw [Executor.ending_execute_rejected hRejected] at hEnd ⊢
      cases hEnd
      have hLive : (Sandbox.runtime : Text) ≠ Sandbox.demoRuntime := by decide
      refine .rejected ⟨hEvents, ?_⟩ hLive
      rw [← hFresh]
      rfl
  | true =>
      cases hOn : Sandbox.isConfigured provider key with
      | false =>
          rw [Sandbox.ending_execute_demo hGiven hOn] at hEnd
          cases hEnd
          exact .shown rfl rfl
      | true =>
          have hNone : ending ((Sandbox.executor provider key).preflight (some code) options) k = (.ok none, k) := by
            simp [Sandbox.executor, hOn]
          have hRuns : (Sandbox.executor provider key).RunsOnce := fun hQuiet code _ l =>
            .inr ⟨_, _, hQuiet.perform_events code .nothing l⟩
          obtain ⟨trace, hTrace, hCourse⟩ := hRuns.attempt_course (Sandbox.factory provider).quiet
            (Sandbox.factory provider).engine_quiet (some code) options k
          obtain ⟨rest, rfl⟩ := hCourse.asks
          have hLive : after ((Sandbox.executor provider key).execute t.elapsed (some code) options) k = _ :=
            Sandbox.after_execute_live hGiven hOn
          rw [← hLive, hEvents] at hTrace
          exact .attempted hTrace (Executor.elapsed_of_attempted hGiven hNone hEnd)

end Backend

namespace Http.Application

/-- A request that carries nothing that a family can run. A module counts for the family of modules alone. -/
def IsEmptyFor (f : Family) (r : Request) : Prop :=
  match f with
  | .wasm => isBlankText r.code = true ∧ (r.precompiled = none ∨ r.precompiled = some "")
  | .javascript | .python => isBlankText r.code = true

theorem carriesInput_eq_false_iff (f : Family) (r : Request) :
    carriesInput f r = false ↔ IsEmptyFor f r := by
  cases f with
  | wasm => simp [carriesInput, IsEmptyFor, Request.hasInput, Request.hasBinary_eq_false_iff]
  | _ => simp [carriesInput, IsEmptyFor]

/-- The option for a module counts where the request carries one. -/
theorem isSome_encodedOption (r : Request) :
    (Wasm.encodedOption (optionsOf r)).isSome = r.hasBinary := by
  unfold Request.hasBinary
  cases hModule : r.precompiled with
  | none => simp [Wasm.encodedOption, optionsOf, Request.optionalDatum, hModule, Datum.truthy]
  | some encoded =>
      cases hEmpty : encoded.isEmpty <;>
        simp [Wasm.encodedOption, optionsOf, Request.optionalDatum, hModule, Datum.truthy, hEmpty]

/-- A backend treats a request by what the request carries for its family. -/
theorem backendOf_treats {p : Platform κ} {s : Settings} {provider : Option (Sandbox.Provider σ)}
    {key : Option String} {f : Family} {r : Request} {t : Moment} {j : Journal σ} {result : RunResult}
    (hEnd : (ending ((backendOf p s (.remote provider key) f).execute t (some r.code) (optionsOf r)) j).1 =
      .ok result) :
    Backend.Treats t.elapsed j
      (after ((backendOf p s (.remote provider key) f).execute t (some r.code) (optionsOf r)) j)
      (carriesInput f r) result := by
  cases f with
  | python => exact Backend.treats_remote provider key hEnd
  | javascript =>
      have hQuiet := (Snippet.composed_engine p.contexts.access).quiet
      have hLive : Snippet.runtime ≠ Sandbox.demoRuntime := by decide
      exact Backend.treats_onFresh .scripts Family.javascript.name hQuiet (p.session s) hLive hEnd
  | wasm =>
      have hInput : (Wasm.executor (return Wasm.engine)).hasInput (some r.code) (optionsOf r) =
          carriesInput .wasm r := by
        change (!isBlankText r.code || (Wasm.encodedOption (optionsOf r)).isSome) = r.hasInput
        rw [isSome_encodedOption, Request.hasInput]
      have hLive : Wasm.runtime ≠ Sandbox.demoRuntime := by decide
      rw [← hInput]
      exact Backend.treats_onFresh .modules Family.wasm.name Wasm.composed_engine.quiet
        (fun chance => .ok (p.machine s chance)) hLive hEnd

/-- The fields of an envelope as they are sent. -/
def sentFields (e : Envelope) (results : Datum) : List (Text × Datum) :=
  [("success", .boolean e.success), ("output", (e.output.map Datum.text).getD .null),
    ("error", (e.error.map Datum.text).getD .null), ("runtime", .text e.runtime),
    ("language", .text e.language), ("executionTimeMs", (e.elapsed.map Datum.integer).getD .null),
    ("hint", (e.hint.map Datum.text).getD .null), ("results", results)]

theorem toDatum_eq (e : Envelope) :
    e.toDatum = .record (sentFields e ((e.results.map Datum.list).getD .null)) := rfl

/-- Of the fields of an envelope only the rich results may be sent in another form. -/
theorem written_sent {limits : WriteLimits} {e w : Envelope} (hWritten : e.written limits = some w) :
    ∃ results, w.toDatum = .record (sentFields e results) := by
  unfold Envelope.written at hWritten
  split at hWritten
  · split at hWritten
    · cases hWritten
      exact ⟨_, toDatum_eq _⟩
    · obtain ⟨ds, -, rfl⟩ := Option.map_eq_some_iff.mp hWritten
      exact ⟨.list ds, rfl⟩
  · cases hWritten

theorem envelopeReply_sent {a : Application σ} {status : Nat} {e : Envelope} {reply : Reply}
    (hReply : a.envelopeReply status e = .ok reply) :
    ∃ results, reply = ⟨status, .json (.record (sentFields e results))⟩ := by
  unfold envelopeReply at hReply
  split at hReply
  · rename_i w hWritten
    obtain ⟨results, hSent⟩ := written_sent hWritten
    cases hReply
    exact ⟨results, by rw [hSent]⟩
  · cases hReply

theorem sent_language (e : Envelope) (results : Datum) :
    (Datum.record (sentFields e results)).field "language" = .text e.language := rfl

theorem sent_time (e : Envelope) (results : Datum) :
    (Datum.record (sentFields e results)).field "executionTimeMs" = .null ↔ e.elapsed = none := by
  change (e.elapsed.map Datum.integer).getD .null = .null ↔ _
  cases e.elapsed <;> simp

section

variable {a : Application σ} {f : Family} {b : Backend σ} {r : Request} {t : Moment} {j : Journal σ}

/-- Beside the backend a run only writes log records. -/
theorem after_run (a : Application σ) (t : Moment) (f : Family) (b : Backend σ) (r : Request) (j : Journal σ) :
    let l := after (b.execute t (some r.code) (optionsOf r)) (executing f r j)
    (after (a.run t f b r) j).events = l.events ∧ (after (a.run t f b r) j).host = l.host := by
  unfold executing
  simp only [run, note, after, ending_bind, ending_log, ending_outcome]
  rcases ending (b.execute t (some r.code) (optionsOf r)) _ with ⟨failure | result, l⟩
  · cases hAnswerable : failure.isAnswerable <;> simp [hAnswerable]
  · cases hEnvelope : envelopeOf b result with
    | error g => simp [hEnvelope]
    | ok e => simp [hEnvelope]

/-- A run is answered with an envelope of the result that its backend has given, or with the message that the backend
has failed. -/
theorem reply_of_run {reply : Reply} (hReply : (ending (a.run t f b r) j).1 = .ok reply) :
    reply = .refusal 500 "Execution error" ∨ ∃ result error results,
      (ending (b.execute t (some r.code) (optionsOf r)) (executing f r j)).1 = .ok result ∧
      Checked.optional Field.text result.error = .ok error ∧
      reply = ⟨statusOf f r, .json (.record (sentFields (result.envelope b.language error) results))⟩ := by
  unfold executing
  simp only [run, note, ending_bind, ending_log, ending_outcome] at hReply
  rcases hRun : ending (b.execute t (some r.code) (optionsOf r)) _ with ⟨failure | result, l⟩
  · rw [hRun] at hReply
    cases hAnswerable : failure.isAnswerable with
    | false => simp [hAnswerable] at hReply
    | true =>
        simp only [hAnswerable, ↓reduceIte, ending_bind, ending_log, ending_pure] at hReply
        cases hReply
        exact .inl rfl
  · rw [hRun] at hReply
    cases hError : Checked.optional Field.text result.error with
    | error issues => simp [envelopeOf_unfit b hError] at hReply
    | ok error =>
        simp only [envelopeOf_ok b hError, ending_bind, ending_ofExcept, ending_log] at hReply
        obtain ⟨results, hSent⟩ := envelopeReply_sent hReply
        exact .inr ⟨result, error, results, rfl, hError, hSent⟩

theorem refusal_not_envelope (refused status : Nat) (detail : Text) :
    ¬(Reply.refusal refused detail).IsEnvelope status := by
  rintro ⟨fields, hSame, hNames⟩
  have hContent := congrArg Reply.content hSame
  cases hContent
  have hLength := congrArg List.length hNames
  simp [Datum.names, envelopeNames] at hLength

/-- What is on record of a request that is accepted is what its run has recorded. -/
theorem after_handle {i : Incoming} {path : String} (hAccepts : a.Accepts i r f) (hBackend : a.backends f = some b)
    (hPath : i.shownPath? = some path) (t : Moment) :
    (after (a.handle t i) j).events = (after (a.run t f b r) (arrived i path j)).events ∧
      (after (a.handle t i) j).host = (after (a.run t f b r) (arrived i path j)).host := by
  simp only [handle, answer, hPath, answerAt, after, ending_bind, note, ending_log, hAccepts.admitted, Bool.not_true,
    Bool.false_eq_true, ↓reduceIte, ending_outcome, serve_accepted hAccepts hBackend, arrived]
  cases (ending (a.run t f b r) _).1 with
  | ok reply => simp [Except.map]
  | error failure => cases hAnswerable : failure.isAnswerable <;> simp [hAnswerable]

end

theorem statusOf_eq (f : Family) (r : Request) : statusOf f r = 200 ∨ statusOf f r = 400 := by
  unfold statusOf
  cases carriesInput f r <;> simp

theorem statusOf_eq_400_iff (f : Family) (r : Request) : statusOf f r = 400 ↔ carriesInput f r = false := by
  unfold statusOf
  cases carriesInput f r <;> simp

/-- What an envelope tells of a request that has been treated. By the runtime and the time, and by what is on record,
a request that was turned down is told from the others, and the status is the one for it. -/
theorem status_of_treats {f : Family} {r : Request} {elapsed : Nat} {j k : Journal σ} {result : RunResult}
    (hTreats : Backend.Treats elapsed j k (carriesInput f r) result) {error : Option Text}
    (hError : Checked.optional Field.text result.error = .ok error) (language : String) (results : Datum) :
    let field := (Datum.record (sentFields (result.envelope language error) results)).field
    (statusOf f r = 400 ↔ k.events = j.events ∧ field "runtime" ≠ .text "Demo Mode") ∧
    (statusOf f r = 400 ↔ field "executionTimeMs" = .null) ∧
    (statusOf f r = 400 → k.host = j.host ∧ field "success" = .boolean false ∧ field "output" = .null ∧
      field "error" = .text "No code provided") := by
  obtain ⟨hRecord, hTime, hRejected⟩ := hTreats.rejected_iff
  rw [statusOf_eq_400_iff]
  refine ⟨hRecord.trans ?record, hTime.trans (Iff.trans ?time (sent_time _ _).symm), ?rejected⟩
  case record =>
    change _ ↔ _ ∧ Datum.text result.runtime ≠ _
    simp [Sandbox.demoRuntime]
  case time => simp [RunResult.envelope]
  case rejected =>
    intro hEmpty
    obtain ⟨hHost, hFailure⟩ := hRejected hEmpty
    rw [hFailure] at hError
    cases hError
    refine ⟨hHost, ?_, ?_, rfl⟩
    · change Datum.boolean result.success = _
      rw [hFailure]
      rfl
    · change (((if result.success then result.output else none).map Datum.text).getD .null) = _
      rw [hFailure]
      rfl

/-- A request that is accepted is answered with an envelope or with a failure of the service. The status of an envelope
is 400 exactly if the coordinator has turned the request down without asking for an engine and without showing the
code; exactly if no time is told; and exactly if the request carries nothing that its family can run. Then nothing has
been done for it. Either way the envelope has all its fields and tells the family. -/
theorem handle_status_iff {p : Platform κ} {s : Settings} {provider : Option (Sandbox.Provider σ)}
    {key : Option String} {i : Incoming} {r : Request} {f : Family} (hAllowed : f ∈ s.allowed)
    (hAccepts : (ofSettings p s (.remote provider key)).Accepts i r f) (t : Moment) (j : Journal σ)
    {reply : Reply} (hReply : (ending ((ofSettings p s (.remote provider key)).handle t i) j).1 = .ok reply) :
    let k := after ((ofSettings p s (.remote provider key)).handle t i) j
    (reply.status = 500 ∧ ∀ status, ¬reply.IsEnvelope status) ∨
    ∃ fields, reply.content = .json (.record fields) ∧ Datum.names fields = envelopeNames ∧
      let field := (Datum.record fields).field
      (reply.status = 200 ∨ reply.status = 400) ∧ field "language" = .text f.name ∧
      (reply.status = 400 ↔ k.events = j.events ∧ field "runtime" ≠ .text "Demo Mode") ∧
      (reply.status = 400 ↔ field "executionTimeMs" = .null) ∧
      (reply.status = 400 ↔ IsEmptyFor f r) ∧
      (reply.status = 400 → k.host = j.host ∧ field "success" = .boolean false ∧ field "output" = .null ∧
        field "error" = .text "No code provided") := by
  intro k
  cases hPath : i.shownPath? with
  | none =>
      rw [ending_handle_untold _ hPath, hAccepts.method] at hReply
      cases hReply
      exact .inl ⟨rfl, breakdown_not_envelope⟩
  | some path =>
      have hBackend := backends_ofSettings (p := p) hAllowed (Backend.remote provider key)
      obtain ⟨hEvents, hHost⟩ := after_handle (j := j) hAccepts hBackend hPath t
      obtain ⟨hRunEvents, hRunHost⟩ := after_run (ofSettings p s (.remote provider key)) t f
        (backendOf p s (.remote provider key) f) r (arrived i path j)
      rw [ending_handle hAccepts hBackend hPath] at hReply
      split at hReply
      case h_2 =>
        split at hReply
        · cases hReply
          exact .inl ⟨rfl, breakdown_not_envelope⟩
        · cases hReply
      rename_i sent hRun
      cases hReply
      rcases reply_of_run hRun with rfl | ⟨result, error, results, hResult, hError, rfl⟩
      · exact .inl ⟨rfl, fun status => refusal_not_envelope 500 status "Execution error"⟩
      have hLanguage : (backendOf p s (.remote provider key) f).language = f.name := by cases f <;> rfl
      obtain ⟨hRecord, hTime, hRejected⟩ := status_of_treats (backendOf_treats hResult) hError
        (backendOf p s (.remote provider key) f).language results
      have hEvents' : k.events = _ := hEvents.trans hRunEvents
      have hHost' : k.host = _ := hHost.trans hRunHost
      refine .inr ⟨_, rfl, rfl, statusOf_eq f r, ?language, ?record, hTime,
        (statusOf_eq_400_iff f r).trans (carriesInput_eq_false_iff f r), ?rejected⟩
      case language => exact (sent_language _ _).trans (congrArg (fun name : String => Datum.text name) hLanguage)
      case record =>
        rw [hEvents']
        simpa [executing, arrived] using hRecord
      case rejected =>
        intro hBad
        rw [hHost']
        simpa [executing, arrived] using hRejected hBad

/-- A request that says nothing at all. -/
def emptyRequest : Incoming := { plainRequest with body := [123, 125] }

/-- A request that says nothing is turned down by the coordinator, and told so. -/
theorem handle_status_empty :
    let a := ofSettings plainPlatform plainSettings (.remote (none : Option (Sandbox.Provider Unit)) none)
    a.Accepts emptyRequest {} .python ∧ ∃ reply fields,
      (ending (a.handle plainMoment emptyRequest) ⟨(), [], []⟩).1 = .ok reply ∧ reply.status = 400 ∧
      reply.content = .json (.record fields) ∧
      (Datum.record fields).field "error" = .text "No code provided" := by
  intro a
  have hAllowed : Family.python ∈ plainSettings.allowed := by decide
  have hAccepts : a.Accepts emptyRequest {} .python :=
    { method := rfl
      admitted := rfl
      valid := by with_unfolding_all rfl
      routed := ⟨none, by decide, rfl⟩ }
  have hOrdinary : ∀ q, (none : Option (Sandbox.Provider Unit)) = some q → q.IsOrdinary := nofun
  have hPresentable : Presentable plainPlatform plainSettings (none : Option (Sandbox.Provider Unit)) none
      plainMoment.chance () {} .python := nofun
  have hPath : emptyRequest.shownPath? = some "/v1/execute" := by decide
  obtain ⟨reply, hReply, hEnvelope⟩ := handle_presentable plainPlatform_ordinary hOrdinary hAllowed hAccepts plainMoment
    hPath (j := ⟨(), [], []⟩) (fun h => nomatch h.family) hPresentable
  refine ⟨hAccepts, reply, ?_⟩
  rcases handle_status_iff hAllowed hAccepts plainMoment ⟨(), [], []⟩ hReply with
    ⟨_, hNone⟩ | ⟨fields, hContent, _, _, _, _, _, hStatus, hRejected⟩
  · exact absurd hEnvelope (hNone _)
  · have hBad : reply.status = 400 := hStatus.mpr rfl
    exact ⟨fields, hReply, hBad, hContent, (hRejected hBad).2.2.2⟩

end Http.Application

end SnippetService
