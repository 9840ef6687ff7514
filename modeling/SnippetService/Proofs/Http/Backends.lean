import SnippetService.Proofs.Execution.Clock
import SnippetService.Proofs.Http.Envelope
import SnippetService.Proofs.Sandbox.Session
import SnippetService.Proofs.Snippet.Evaluation
import SnippetService.Proofs.Wasm.Legible
/-!
Which results the backends give. A request that carries something is answered with what it comes to on a new host, or
in a sandbox. Modules come to an end that can be written as an envelope, unless they come to none. The outcome of a
script and the run of a sandbox come from outside, and each has its own ways not to.
-/
namespace SnippetService

open Job

variable {κ σ ρ : Type} {limits : WriteLimits}

/-- An end whose answer is made of characters. -/
abbrev EndsLegibly (r : Except Failure RunResult) : Prop :=
  Ends (fun f => f.isTellable = true) RunResult.IsLegible r

/-- An end whose answer can be written as an envelope. -/
abbrev EndsFit (limits : WriteLimits) (r : Except Failure RunResult) : Prop :=
  Ends (fun f => f.isTellable = true) (RunResult.Fits limits) r

theorem isPlain_orElseText (s : Text) (fallback : String) : (orElseText s fallback).isPlain = s.isPlain := by
  cases s with
  | nil => exact Text.isPlain_ofString fallback
  | cons p rest => rfl

/-- What is answered can be written as an envelope exactly if the end can. -/
theorem Executor.fits_resultOf_iff (x : Executor σ) {r : Except Failure RunResult} (hr : Answerable r) :
    (x.resultOf r).Fits limits ↔ EndsFit limits r := by
  cases r with
  | ok result => exact Iff.rfl
  | error f =>
      cases f with
      | classified c message hint =>
          have hHint : (∀ s, hint = some s → s.isPlain = true) ↔ hint.all Text.isPlain = true := by
            cases hint <;> simp
          change (RunResult.failure _ _ _).Fits limits ↔ (message.isPlain && hint.all Text.isPlain) = true
          rw [RunResult.fits_failure, hHint, Failure.text, isPlain_orElseText, Bool.and_eq_true]
          simp
      | unexpected kind text =>
          change (RunResult.failure _ _ _).Fits limits ↔ text.isPlain = true
          rw [RunResult.fits_failure, Failure.text, isPlain_orElseText]
          simp
      | shutdown name text => cases hr

/-- A call whose engine can be disposed of is answered with what it comes to, if that can be answered. -/
theorem Executor.conclude_answerable (x : Executor σ) (elapsed : Nat) {r : Except Failure RunResult}
    (hr : Answerable r) : x.conclude elapsed r (.ok ()) = .ok ((x.resultOf r).timed elapsed) := by
  change (x.answerOf r).map _ = _
  rw [x.answerOf_eq hr]
  rfl

namespace Snippet

/-- An outcome with a message that no envelope can hold: the evaluation failed, no error lines make a text of the
message, and the message itself reads as none. -/
structure HasOddMessage (outcome : Datum) : Prop where
  failed : (outcome.field "ok").truthy = false
  bare : (linesOf outcome "errors").truthy = false
  given : (outcome.field "error").truthy = true
  unreadable : (Field.text (outcome.field "error")).isOk = false

theorem isOk_optional_text {d : Datum} (hTruthy : d.truthy = true) :
    (Checked.optional Field.text d).isOk = (Field.text d).isOk := by
  cases d with
  | null => cases hTruthy
  | text s => rfl
  | bytes data =>
      change ((Field.text (.bytes data)).map some).isOk = _
      cases Field.text (.bytes data) <;> rfl
  | _ => rfl

/-- Nothing but a text is shown as one, and nothing is shown of an empty one. -/
theorem isOk_shown {d : Datum} (hText : d = .null ∨ ∃ s, d = .text s) :
    (Checked.optional Field.text (if d.truthy then d else .null)).isOk = true := by
  rcases hText with rfl | ⟨s, rfl⟩
  · rfl
  · split <;> rfl

/-- Without error lines the message of an outcome reads as a text unless it is odd. -/
theorem isOk_messageOf {outcome : Datum} (hLines : (linesOf outcome "errors").truthy = false) :
    (Checked.optional Field.text (if (messageOf outcome).truthy then messageOf outcome else .null)).isOk = true ↔
      ¬HasOddMessage outcome := by
  cases hOk : (outcome.field "ok").truthy with
  | true =>
      have hMessage : messageOf outcome = .text "" := if_pos hOk
      rw [hMessage]
      refine iff_of_true (isOk_shown (.inr ⟨"", rfl⟩)) fun hOdd => ?_
      rw [hOdd.failed] at hOk
      cases hOk
  | false =>
      rw [if_pos (truthy_messageOf hOk), messageOf_failed hOk]
      cases hGiven : (outcome.field "error").truthy with
      | false =>
          refine iff_of_true rfl fun hOdd => ?_
          rw [hOdd.given] at hGiven
          cases hGiven
      | true =>
          rw [if_pos rfl, isOk_optional_text hGiven]
          constructor
          · intro hReads hOdd
            rw [hOdd.unreadable] at hReads
            cases hReads
          · intro hEven
            cases hReads : (Field.text (outcome.field "error")).isOk with
            | true => rfl
            | false => exact absurd ⟨hOk, hLines, hGiven, hReads⟩ hEven

/-- The error of the result of an outcome reads as a text unless the message of the outcome is odd. -/
theorem isOk_error_buildResult {outcome logs : Datum} {r : RunResult}
    (hResult : buildResult outcome logs (linesOf outcome "errors") = .ok r) :
    (Checked.optional Field.text r.error).isOk = true ↔ ¬HasOddMessage outcome := by
  obtain ⟨output, e, hValue, rfl⟩ := buildResult_ok hResult
  dsimp only
  cases hLines : (linesOf outcome "errors").truthy with
  | true =>
      refine iff_of_true (isOk_shown (.inr (errorValue_lines hLines hValue))) fun hOdd => ?_
      rw [hOdd.bare] at hLines
      cases hLines
  | false =>
      rw [errorValue_bare hLines] at hValue
      injection hValue with hMessage
      subst hMessage
      exact isOk_messageOf hLines

/-- The result of an outcome can be written as an envelope if it is made of characters and the message of the outcome
is not odd. -/
theorem fits_resultOfOutcome {outcome : Datum} {r : RunResult} (hResult : resultOfOutcome outcome = .ok r) :
    r.Fits limits ↔ r.IsLegible ∧ ¬HasOddMessage outcome := by
  cases outcome with
  | record fields =>
      have hError := isOk_error_buildResult hResult
      have hResults : r.results = none := by
        obtain ⟨output, e, -, rfl⟩ := buildResult_ok hResult
        rfl
      refine ⟨fun h => ⟨h.legible, hError.mp h.error⟩, fun h => ⟨hError.mpr h.2, h.1, fun ds hSome => ?_⟩⟩
      rw [hResults] at hSome
      cases hSome
  | _ => cases hResult

/-- An odd message does not keep the engine from making a result. -/
theorem resultOfOutcome_odd {outcome : Datum} (hOdd : HasOddMessage outcome) :
    ∃ r, resultOfOutcome outcome = .ok r := by
  cases outcome with
  | record fields =>
      have hBuilt := buildResult_failed hOdd.failed (linesOf (.record fields) "logs")
        (linesOf (.record fields) "errors")
      rw [errorValue_bare hOdd.bare] at hBuilt
      exact ⟨_, hBuilt⟩
  | _ => cases hOdd.given

/-- The outcomes to which a snippet can come in a context, if the console can be installed there. -/
def Comes (access : ContextAccess κ) (code : Text) (c : κ) (outcome : Datum) : Prop :=
  (∃ a, (access.eval .install consoleText c).1 = .ok a) ∧
    outcomeAt access code (installed access c) = .ok outcome

/-- What a script comes to can be written as an envelope if it is made of characters and its outcome has no odd
message. -/
theorem fits_endAt (access : ContextAccess κ) (code : Option Text) (c : κ) :
    EndsFit limits (endAt access code c) ↔
      EndsLegibly (endAt access code c) ∧
        ∀ outcome, Comes access (code.getD "") c outcome → ¬HasOddMessage outcome := by
  unfold endAt Comes
  cases hInstall : (access.eval .install consoleText c).1 with
  | error f => exact ⟨fun h => ⟨h, fun _ hComes => nomatch hComes.1⟩, fun h => h.1⟩
  | ok a =>
      cases hOutcome : outcomeAt access (code.getD "") (installed access c) with
      | error f => exact ⟨fun h => ⟨h, fun _ hComes => nomatch hComes.2⟩, fun h => h.1⟩
      | ok outcome =>
          change Ends _ _ (resultOfOutcome outcome) ↔ Ends _ _ (resultOfOutcome outcome) ∧ _
          have hOnly : (∀ d, (∃ b, Except.ok (ε := Failure) a = .ok b) ∧ Except.ok (ε := Failure) outcome = .ok d →
              ¬HasOddMessage d) ↔ ¬HasOddMessage outcome := by simp
          rw [hOnly]
          cases hResult : resultOfOutcome outcome with
          | ok r => exact fits_resultOfOutcome hResult
          | error f =>
              refine ⟨fun h => ⟨h, fun hOdd => ?_⟩, fun h => h.1⟩
              obtain ⟨r, hSome⟩ := resultOfOutcome_odd hOdd
              rw [hSome] at hResult
              cases hResult

/-- Contexts that are refused, and fail, only in ways that can be answered. -/
structure Contexts.IsOrdinary (contexts : Contexts κ) : Prop where
  access : contexts.access.IsAnswerable
  fresh : ∀ seconds bytes chance, Answerable (contexts.fresh seconds bytes chance)

theorem answerable_endAt {access : ContextAccess κ} (hAccess : access.IsAnswerable) (code : Option Text) (c : κ) :
    Answerable (endAt access code c) := by
  have hRun := isAnswerable_execute hAccess code ⟨⟨c, true⟩, [], []⟩
  rwa [ending_execute rfl] at hRun

end Snippet

/-- What the run of a code comes to on a new host; without one, the failure to have it. -/
def Executor.endOn (x : Executor ρ) (e : Engine ρ) (code : Option Text) (options : Options)
    (host : Except Failure ρ) : Except Failure RunResult :=
  host.bind fun h => (ending (x.run e code options) ⟨h, [], []⟩).1

namespace Platform

variable (p : Platform κ) (s : Settings) (chance : Chance) (code : Option Text) (options : Options)

/-- What a script comes to in a new context. -/
def scriptEnd : Except Failure RunResult :=
  (p.session s chance).bind fun session => Snippet.endAt p.contexts.access code session.context

/-- What a module comes to on a new engine. -/
def moduleEnd : Except Failure RunResult :=
  (ending ((Wasm.executor (return Wasm.engine)).run Wasm.engine code options) ⟨p.machine s chance, [], []⟩).1

theorem endOn_session :
    (Snippet.executor (return Snippet.engine p.contexts.access)).endOn (Snippet.engine p.contexts.access) code options
      (p.session s chance) = p.scriptEnd s chance code := by
  unfold Executor.endOn scriptEnd session
  cases p.contexts.fresh s.scriptTime (s.maxMemory * megabyte) chance with
  | error f => rfl
  | ok c =>
      change (ending ((Snippet.engine p.contexts.access).perform code .nothing) _).1 = _
      rw [Engine.ending_perform]
      exact Snippet.ending_execute rfl

theorem answerable_scriptEnd (hOrdinary : p.contexts.IsOrdinary) : Answerable (p.scriptEnd s chance code) := by
  have hFresh := hOrdinary.fresh s.scriptTime (s.maxMemory * megabyte) chance
  unfold scriptEnd session
  cases hSession : p.contexts.fresh s.scriptTime (s.maxMemory * megabyte) chance with
  | error f => rwa [hSession] at hFresh
  | ok c => exact Snippet.answerable_endAt hOrdinary.access code c

/-- What a script comes to can be written as an envelope if it is made of characters and its outcome has no odd
message. -/
theorem fits_scriptEnd :
    EndsFit limits (p.scriptEnd s chance code) ↔ EndsLegibly (p.scriptEnd s chance code) ∧
      ∀ session outcome, p.session s chance = .ok session →
        Snippet.Comes p.contexts.access (code.getD "") session.context outcome → ¬Snippet.HasOddMessage outcome := by
  unfold scriptEnd
  cases p.session s chance with
  | error f => exact ⟨fun h => ⟨h, fun _ _ hNone => nomatch hNone⟩, fun h => h.1⟩
  | ok session =>
      refine (Snippet.fits_endAt p.contexts.access code session.context).trans (and_congr_right fun _ => ?_)
      exact ⟨fun h _ outcome hSame => Except.ok.inj hSame ▸ h outcome, fun h outcome => h session outcome rfl⟩

variable (limits) {options} in
/-- What a module comes to can be written as an envelope, if it comes to an end. -/
theorem fits_moduleEnd (hArgs : Wasm.AreLegible (Wasm.argsOption options)) :
    p.moduleEnd s chance code options = .error Wasm.unending ∨ EndsFit limits (p.moduleEnd s chance code options) := by
  have hTold := Wasm.told_run (return Wasm.engine) code options ⟨p.machine s chance, [], []⟩
  change Ends Wasm.Told Wasm.IsPlain (p.moduleEnd s chance code options) at hTold
  cases hEnd : p.moduleEnd s chance code options with
  | error f =>
      rw [hEnd] at hTold
      rcases hTold with hTellable | rfl
      · exact .inr hTellable
      · exact .inl rfl
  | ok result =>
      right
      unfold moduleEnd at hEnd
      simp only [Wasm.executor, ending_bind, ending_ofExcept] at hEnd
      cases hDecoded : (Wasm.encodedOption options).mapM Wasm.decodeOption with
      | error f =>
          rw [hDecoded] at hEnd
          cases hEnd
      | ok bytes =>
          rw [hDecoded] at hEnd
          have hKeeps : Wasm.Keeps (p.machine s chance).surroundings (p.machine s chance).memoryLimit
              (some (p.machine s chance).steps) [] (p.machine s chance) := ⟨rfl, rfl, rfl, rfl, rfl, rfl⟩
          let c : Wasm.Call := ⟨code, bytes, Wasm.textOption options "entry_point", Wasm.argsOption options⟩
          obtain ⟨output, rfl, hPlain⟩ := Wasm.legible_run
            (j := (Journal.mk (p.machine s chance) [] []).noted (.execute code _)) hKeeps (c := c) hArgs hEnd
          refine (RunResult.fits_iff_isLegible (.inl rfl) rfl).mpr ⟨fun _ s hSome => ?_, nofun, ?_, nofun⟩
          · cases hSome
            exact hPlain
          · exact Text.isPlain_ofString _

end Platform

/-- The answer that shows the code can be written as an envelope if the code is made of characters. -/
theorem Sandbox.fits_demoResult (code : Text) : (demoResult code).Fits limits ↔ code.isPlain = true := by
  rw [RunResult.fits_iff_isLegible (.inl rfl) rfl, ← isPlain_demoOutput code]
  refine ⟨fun h => h.output rfl _ rfl, fun hPlain => ⟨fun _ s hSome => ?_, nofun, Text.isPlain_ofString _, nofun⟩⟩
  cases hSome
  exact hPlain

/-- What code comes to in a sandbox of its own. -/
def Sandbox.Provider.codeEnd (q : Sandbox.Provider κ) (code : Text) (world : κ) : Except Failure RunResult :=
  (q.create world).1.bind fun _ => (q.run code (q.create world).2).1.map Run.result

namespace Backend

variable {e : Engine ρ} {code : Option Text} {options : Options}

/-- A request that carries something is answered with what it comes to on a new host. -/
theorem ending_onFresh (c : Coordinator) (language : String) (host : Chance → Except Failure ρ) (options : Options)
    (hEngine : e.Composed) (hReleases : e.Releases)
    (hInput : (c.executor (return e)).hasInput code options = true) (t : Moment) (j : Journal σ) :
    (ending ((onFresh language (fun _ => c.executor) e host).execute t code options) j).1 =
      (c.executor (return e)).conclude t.elapsed ((c.executor (return e)).endOn e code options (host t.chance))
        (.ok ()) := by
  unfold onFresh Executor.endOn
  dsimp only
  cases host t.chance with
  | ok h =>
      dsimp only
      rw [ending_within]
      exact c.ending_execute_own hEngine hReleases hInput _
  | error f =>
      have hUnequipped : (c.unequipped f : Executor σ).hasInput code options = true := by
        rw [Coordinator.unequipped, c.hasInput_executor (Job.fail f) (return e), hInput]
      have hEnd := c.ending_execute_unequipped f t.elapsed rfl hUnequipped j
      change (ending ((c.unequipped f).execute t.elapsed code options) j).1 = _
      rw [hEnd]
      cases c <;> rfl

/-- A request that carries nothing is turned down. -/
theorem ending_onFresh_rejected (c : Coordinator) (language : String) (host : Chance → Except Failure ρ)
    (options : Options)
    (hInput : (c.executor (return e)).hasInput code options = false) (t : Moment) (j : Journal σ) :
    (ending ((onFresh language (fun _ => c.executor) e host).execute t code options) j).1 =
      .ok (.failure (c.executor (return e)).runtime Executor.noCodeError none) := by
  unfold onFresh
  dsimp only
  cases host t.chance with
  | ok h =>
      dsimp only
      rw [ending_within, Executor.ending_execute_rejected hInput]
  | error f =>
      rw [c.hasInput_executor (return e) (Job.fail f)] at hInput
      rw [Executor.ending_execute_rejected hInput]
      cases c <;> rfl

variable (p : Platform κ) (s : Settings) (t : Moment)

/-- A script that is given is answered with what it comes to in a new context, if that can be answered. -/
theorem ending_scripts (hEnd : Answerable (p.scriptEnd s t.chance code)) (hCode : Executor.hasCode code = true)
    (options : Options) (j : Journal σ) :
    (ending ((scripts p s).execute t code options) j).1 =
      .ok (((Snippet.executor (return Snippet.engine p.contexts.access)).resultOf
        (p.scriptEnd s t.chance code)).timed t.elapsed) := by
  have hFresh := ending_onFresh (σ := σ) .scripts Family.javascript.name (p.session s) options
    (Snippet.composed_engine p.contexts.access) (Snippet.releases_engine _) hCode t j
  refine hFresh.trans ?_
  change Executor.conclude (Snippet.executor _) _ (Executor.endOn (Snippet.executor _) _ _ _ _) _ = _
  rw [p.endOn_session, Executor.conclude_answerable _ _ hEnd]

variable (limits) in
/-- The answers of the backend of scripts can be written as envelopes where what they come to can. -/
theorem scripts_fits (hOrdinary : p.contexts.IsOrdinary) (code : Option Text) (options : Options) (j : Journal σ) :
    ∃ result, (ending ((scripts p s).execute t code options) j).1 = .ok result ∧
      (result.Fits limits ↔ (Executor.hasCode code = true → EndsFit limits (p.scriptEnd s t.chance code))) := by
  cases hCode : Executor.hasCode code with
  | false =>
      have hEnd := ending_onFresh_rejected (σ := σ) (e := Snippet.engine p.contexts.access) .scripts
        Family.javascript.name (p.session s) options hCode t j
      exact ⟨_, hEnd, iff_of_true (RunResult.fits_failure.mpr (by simp [Coordinator.executor, Snippet.executor])) nofun⟩
  | true =>
      have hEnd := p.answerable_scriptEnd s t.chance code hOrdinary
      refine ⟨_, ending_scripts p s t hEnd hCode options j, ?_⟩
      rw [RunResult.fits_timed, Executor.fits_resultOf_iff _ hEnd]
      exact ⟨fun hFits _ => hFits, fun hFits => hFits rfl⟩

variable (limits) in
/-- The backend of modules does not come back from a module that comes to no end. All its answers can be written as
envelopes. -/
theorem modules_fits (hArgs : Wasm.AreLegible (Wasm.argsOption options)) (code : Option Text) (j : Journal σ) :
    let given := (Wasm.executor (return Wasm.engine)).hasInput code options
    let outcome := (ending ((modules p s).execute t code options) j).1
    (given = true ∧ p.moduleEnd s t.chance code options = .error Wasm.unending ∧ outcome = .error Wasm.unending) ∨
    (¬(given = true ∧ p.moduleEnd s t.chance code options = .error Wasm.unending) ∧
      ∃ result, outcome = .ok result ∧ result.Fits limits) := by
  intro given outcome
  cases hInput : given with
  | false =>
      have hEnd : outcome = _ := ending_onFresh_rejected (σ := σ) .modules Family.wasm.name
        (fun chance => .ok (p.machine s chance)) options hInput t j
      refine .inr ⟨nofun, _, hEnd, RunResult.fits_failure.mpr ?_⟩
      simp [Coordinator.executor, Wasm.executor]
  | true =>
      have hEnd : outcome = _ := ending_onFresh (σ := σ) .modules Family.wasm.name
        (fun chance => .ok (p.machine s chance)) options Wasm.composed_engine Wasm.releases_engine hInput t j
      change _ = Executor.conclude (Wasm.executor _) _ (p.moduleEnd s t.chance code options) _ at hEnd
      rcases p.fits_moduleEnd limits s t.chance code hArgs with hUnending | hFits
      · rw [hUnending] at hEnd
        exact .inl ⟨rfl, hUnending, hEnd⟩
      · have hAnswerable : Answerable (p.moduleEnd s t.chance code options) :=
          hFits.mono (fun _ => Failure.isAnswerable_of_isTellable) fun _ _ => trivial
        rw [Executor.conclude_answerable _ _ hAnswerable] at hEnd
        refine .inr ⟨fun h => ?_, _, hEnd, ?_⟩
        · rw [h.2] at hFits
          cases hFits
        · rwa [RunResult.fits_timed, Executor.fits_resultOf_iff _ hAnswerable]

variable (limits) in
/-- The answers of the backend of remote code can be written as envelopes where the code that is shown is made of
characters, and what code comes to in a sandbox can be written. -/
theorem remote_fits {provider : Option (Sandbox.Provider κ)} (key : Option String)
    (hOrdinary : ∀ q, provider = some q → q.IsOrdinary) (code : Text) (options : Options) (j : Journal κ) :
    ∃ result, (ending ((remote provider key).execute t (some code) options) j).1 = .ok result ∧
      (result.Fits limits ↔ (Executor.hasCode (some code) = true →
        (Sandbox.isConfigured provider key = false → code.isPlain = true) ∧
        (Sandbox.isConfigured provider key = true → ∀ q, provider = some q →
          EndsFit limits (q.codeEnd code j.host)))) := by
  simp only [remote, ending_within]
  generalize hFresh : j.hosting (Sandbox.Session.mk j.host false) = k
  cases hInput : Executor.hasCode (some code) with
  | false =>
      have hRejected : (Sandbox.executor provider key).hasInput (some code) options = false := hInput
      rw [Executor.ending_execute_rejected hRejected]
      exact ⟨_, rfl, iff_of_true (RunResult.fits_failure.mpr (by simp [Sandbox.executor])) (by simp)⟩
  | true =>
      cases hOn : Sandbox.isConfigured provider key with
      | false =>
          rw [Sandbox.ending_execute_demo hInput hOn]
          refine ⟨_, rfl, ?_⟩
          rw [RunResult.fits_timed, Sandbox.fits_demoResult]
          exact ⟨fun hPlain _ => ⟨fun _ => hPlain, by simp⟩, fun hCode => (hCode rfl).1 rfl⟩
      | true =>
          obtain ⟨⟨q, rfl⟩, -⟩ := Sandbox.isConfigured_iff.mp hOn
          have hKind := hOrdinary q rfl
          have hWorld : k.host.world = j.host := by rw [← hFresh]; rfl
          cases hCreate : (q.create j.host).1 with
          | error f =>
              have hAnswerable := hKind.create j.host
              rw [hCreate] at hAnswerable
              have hEnd : q.codeEnd code j.host = .error f := by rw [Sandbox.Provider.codeEnd, hCreate]; rfl
              refine ⟨_, Sandbox.ending_execute_refused hInput hOn hKind (hWorld ▸ hCreate), ?_⟩
              rw [RunResult.fits_timed, Executor.fits_resultOf_iff _ hAnswerable, ← hEnd]
              simp
          | ok u =>
              have hAnswerable : Answerable ((q.run code (q.create j.host).2).1.map Sandbox.Run.result) :=
                Meets.map (hKind.run code _) fun _ _ => trivial
              have hEnd : q.codeEnd code j.host = (q.run code (q.create j.host).2).1.map Sandbox.Run.result := by
                rw [Sandbox.Provider.codeEnd, hCreate]; rfl
              refine ⟨_, Sandbox.ending_execute_had hInput hOn hKind (hWorld ▸ hCreate), ?_⟩
              rw [RunResult.fits_timed, hWorld, Executor.fits_resultOf_iff _ hAnswerable, ← hEnd]
              simp

end Backend

end SnippetService
