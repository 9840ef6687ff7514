import SnippetService.Proofs.Sandbox.Session
import SnippetService.Proofs.Text.Point
import SnippetService.Service.Backend
/-!
The account of sandbox sessions. The acts on a provider are noted in the world behind it, so that the account
does not rest on what the coordinator says of itself. Each call that is neither rejected nor answered in demo
mode asks for one session, and a session that is had is used once and then released once.
-/
namespace SnippetService.Sandbox

open Job

variable {κ : Type}

/-- An act on a provider. -/
inductive Act where
  /-- A session is asked for; it may be had or not. -/
  | create (isHad : Bool)
  | submit (code : Text)
  | kill
  deriving DecidableEq

namespace Act

def isCreate : Act → Bool
  | create _ => true
  | _ => false

/-- Whether a session is had. -/
def isProvision : Act → Bool
  | create isHad => isHad
  | _ => false

def isSubmit : Act → Bool
  | submit _ => true
  | _ => false

def isKill : Act → Bool
  | kill => true
  | _ => false

end Act

/-- The world behind a provider, with all that was done on the provider so far. -/
structure Watched (κ : Type) where
  world : κ
  acts : List Act := []

namespace Watched

def noted (w : Watched κ) (a : Act) (world : κ) : Watched κ := ⟨world, w.acts ++ [a]⟩

end Watched

/-- A provider on which every act is noted, also when it fails. -/
def Provider.watched (p : Provider κ) : Provider (Watched κ) where
  create w := ((p.create w.world).1, w.noted (.create (p.create w.world).1.isOk) (p.create w.world).2)
  run code w := ((p.run code w.world).1, w.noted (.submit code) (p.run code w.world).2)
  kill w := ((p.kill w.world).1, w.noted .kill (p.kill w.world).2)

/-- One call of the executor of remote code. -/
structure Call where
  /-- The environment from this call on, if it is replaced. -/
  environment : Option Environment := none
  code : Option Text
  options : Options := []
  /-- The time in which the call is handled. -/
  moment : Moment
  /-- How the key is looked up when the call is made. -/
  source : Environment → Option String := remoteKey

namespace Call

/-- The environment in which a call is made. -/
def environmentFrom (c : Call) (env : Environment) : Environment := c.environment.getD env

/-- The key of the moment. -/
def key (c : Call) (env : Environment) : Option String := c.source (c.environmentFrom env)

/-- The call as work on the watched world. -/
def job (c : Call) (provider : Option (Provider κ)) (env : Environment) :
    Job (Watched κ) RunResult :=
  (Backend.remote (provider.map Provider.watched) (c.key env)).execute c.moment c.code c.options

/-- What a call comes to. -/
def answer (c : Call) (provider : Option (Provider κ)) (env : Environment) (j : Journal (Watched κ)) :
    Except Failure RunResult := (ending (c.job provider env) j).1

end Call

/-- The journal after calls one after another; a call that raises does not keep the next from being
made. -/
def serve (provider : Option (Provider κ)) :
    List Call → Environment → Journal (Watched κ) → Journal (Watched κ)
  | [], _, j => j
  | c :: rest, env, j =>
    serve provider rest (c.environmentFrom env) (after (c.job provider env) j)

/-- An answer of demo mode: the code stands in it as it came. -/
def IsDemo (code : Text) (answer : Except Failure RunResult) : Prop :=
  ∃ r before behind, answer = .ok r ∧ r.success = true ∧ r.runtime = "Demo Mode" ∧
    r.output = some (before ++ code ++ behind)

/-- The courses that a call can take, by the acts that it does on the provider. -/
inductive Course (provider : Option (Provider κ)) (key : Option String) (world : κ) :
    (code : Option Text) → (answer : Except Failure RunResult) → List Act → Prop where
  | rejected {code : Option Text} {answer : Except Failure RunResult}
      (blank : Executor.hasCode code = false) : Course provider key world code answer []
  | demo {code : Text} {answer : Except Failure RunResult}
      (given : Executor.hasCode (some code) = true) (off : provider = none ∨ IsFalsy key)
      (shown : IsDemo code answer) : Course provider key world (some code) answer []
  | refused {code : Text} {answer : Except Failure RunResult} {p : Provider κ} {f : Failure}
      (given : Executor.hasCode (some code) = true) (source : provider = some p)
      (on : ¬IsFalsy key) (raised : (p.create world).1 = .error f) :
      Course provider key world (some code) answer [.create false]
  | used {code : Text} {answer : Except Failure RunResult} {p : Provider κ}
      (given : Executor.hasCode (some code) = true) (source : provider = some p)
      (on : ¬IsFalsy key) (had : (p.create world).1 = .ok ()) :
      Course provider key world (some code) answer [.create true, .submit code, .kill]

/-- The accounts of calls made one after another, each from the world that those before it leave. -/
inductive Accounted (provider : Option (Provider κ)) :
    List Call → Environment → Journal (Watched κ) → List (List Act) → Prop where
  | nil (env : Environment) (j : Journal (Watched κ)) : Accounted provider [] env j []
  | cons {c : Call} {rest : List Call} {env : Environment} {j : Journal (Watched κ)}
      {acts : List Act} {later : List (List Act)}
      (course : Course provider (c.key env) j.host.world c.code (c.answer provider env j) acts)
      (tail : Accounted provider rest (c.environmentFrom env) (after (c.job provider env) j) later) :
      Accounted provider (c :: rest) env j (acts :: later)

/-- The key of the environment counts as none if the variable is not there or holds only blanks. -/
theorem isFalsy_remoteKey (env : Environment) :
    IsFalsy (remoteKey env) ↔
      env.lookup "E2B_API_KEY" = none ∨
      ∃ value, env.lookup "E2B_API_KEY" = some value ∧ isBlankText value = true := by
  unfold IsFalsy remoteKey
  cases env.lookup "E2B_API_KEY" with
  | none => simp
  | some value =>
      cases hBlank : isBlankText value with
      | true => simp [Option.filter, hBlank]
      | false =>
          have hNonempty : value ≠ "" := by
            rintro rfl
            simp [isBlankText] at hBlank
          simp [Option.filter, hBlank, hNonempty]

/-- What is answered without a session shows the code between two fixed texts. -/
theorem isDemo_demoResult (code : Text) (elapsed : Nat) :
    IsDemo code (.ok ((demoResult code).timed elapsed)) :=
  ⟨_, "[Demo Mode] Python code execution is simulated.\n\n" ++ "Code:\n",
    "\n\n" ++ "Note: Set E2B_API_KEY environment variable to enable real code execution.",
    rfl, rfl, rfl, congrArg some (List.append_assoc _ _ _)⟩

namespace Call

/-- A call as work on a session of its own, which is not held yet. -/
def work (c : Call) (provider : Option (Provider κ)) (env : Environment) :
    SessionJob (Watched κ) RunResult :=
  (executor (provider.map Provider.watched) (c.key env)).execute c.moment.elapsed c.code c.options

theorem answer_eq (c : Call) (provider : Option (Provider κ)) (env : Environment)
    (j : Journal (Watched κ)) :
    c.answer provider env j = (ending (c.work provider env) (j.hosting ⟨j.host, false⟩)).1 := by
  simp only [answer, job, Backend.remote, ending_within, work]

theorem host_job (c : Call) (provider : Option (Provider κ)) (env : Environment)
    (j : Journal (Watched κ)) :
    (after (c.job provider env) j).host =
      (after (c.work provider env) (j.hosting ⟨j.host, false⟩)).host.world := by
  simp only [after, job, Backend.remote, ending_within, work, Journal.hosting_host]

/-- The acts of one call are those of one of the four courses. -/
theorem course (c : Call) (provider : Option (Provider κ)) (env : Environment)
    (j : Journal (Watched κ)) :
    ∃ acts, (after (c.job provider env) j).host.acts = j.host.acts ++ acts ∧
      Course provider (c.key env) j.host.world c.code (c.answer provider env j) acts := by
  rw [host_job, answer_eq, work]
  cases hGiven : Executor.hasCode c.code with
  | false =>
      refine ⟨[], ?_, .rejected hGiven⟩
      rw [List.append_nil, after, Executor.ending_execute_rejected hGiven, Journal.hosting_host]
  | true =>
      obtain ⟨code, hCode⟩ := exists_of_hasCode hGiven
      rw [hCode] at hGiven ⊢
      cases hOn : isConfigured (provider.map Provider.watched) (c.key env) with
      | false =>
          have hOff : provider = none ∨ IsFalsy (c.key env) := by
            simpa using isConfigured_eq_false_iff.mp hOn
          refine ⟨[], ?_, .demo hGiven hOff ?_⟩
          · rw [List.append_nil, after, ending_execute_demo hGiven hOn]
            rfl
          · rw [ending_execute_demo hGiven hOn]
            exact isDemo_demoResult code c.moment.elapsed
      | true =>
          obtain ⟨⟨q, hSource⟩, hKey⟩ := isConfigured_iff.mp hOn
          obtain ⟨p, hProvider, rfl⟩ := Option.map_eq_some_iff.mp hSource
          rw [after_execute_live hGiven hOn, hSource]
          cases hCreate : (p.create j.host.world).1 with
          | error f =>
              refine ⟨[.create false], ?_, .refused hGiven hProvider hKey hCreate⟩
              rw [world_attempt_refused (p := p.watched) (j := j.hosting ⟨j.host, false⟩) hCreate]
              simp [Provider.watched, Watched.noted, hCreate, Except.isOk, Except.toBool]
          | ok u =>
              refine ⟨[.create true, .submit code, .kill], ?_, .used hGiven hProvider hKey hCreate⟩
              rw [world_attempt_had (p := p.watched) (j := j.hosting ⟨j.host, false⟩) hCreate]
              simp [Provider.watched, Watched.noted, hCreate, Except.isOk, Except.toBool]

end Call

/-- The number of calls that ask for a session. -/
def liveCalls (provider : Option (Provider κ)) : List Call → Environment → Nat
  | [], _ => 0
  | c :: rest, env =>
    (Executor.hasCode c.code && isConfigured provider (c.key env)).toNat +
      liveCalls provider rest (c.environmentFrom env)

namespace Course

variable {provider : Option (Provider κ)} {key : Option String} {world : κ} {code : Option Text}
  {answer : Except Failure RunResult} {acts : List Act}

/-- In each course a session that is had is submitted to once and killed once. -/
theorem balanced (h : Course provider key world code answer acts) :
    acts.countP Act.isSubmit = acts.countP Act.isProvision ∧
    acts.countP Act.isKill = acts.countP Act.isProvision := by
  cases h <;> exact ⟨rfl, rfl⟩

theorem creates_eq (h : Course provider key world code answer acts) :
    acts.countP Act.isCreate = (Executor.hasCode code && isConfigured provider key).toNat := by
  cases h with
  | rejected blank => rw [blank]; rfl
  | demo given off _ => rw [isConfigured_eq_false_iff.mpr off, Bool.and_false]; rfl
  | refused given source on _ => rw [given, isConfigured_iff.mpr ⟨⟨_, source⟩, on⟩]; rfl
  | used given source on _ => rw [given, isConfigured_iff.mpr ⟨⟨_, source⟩, on⟩]; rfl

end Course

/-- Over any run, each call follows one of the four courses. As many sessions are asked for as there are
calls with code, a provider and a key; as many are killed as were had, and each is submitted to once. With
the usual look-up there is no key where the variable is not there or blank. -/
theorem serve_accounts (provider : Option (Provider κ)) (calls : List Call) (env : Environment)
    (j : Journal (Watched κ)) :
    (∃ accounts, Accounted provider calls env j accounts ∧
      (serve provider calls env j).host.acts = j.host.acts ++ accounts.flatten ∧
      accounts.flatten.countP Act.isCreate = liveCalls provider calls env ∧
      accounts.flatten.countP Act.isSubmit = accounts.flatten.countP Act.isProvision ∧
      accounts.flatten.countP Act.isKill = accounts.flatten.countP Act.isProvision) ∧
    ∀ e : Environment, IsFalsy (remoteKey e) ↔
      e.lookup "E2B_API_KEY" = none ∨
      ∃ value, e.lookup "E2B_API_KEY" = some value ∧ isBlankText value = true := by
  refine ⟨?_, isFalsy_remoteKey⟩
  induction calls generalizing env j with
  | nil => exact ⟨[], .nil env j, by simp [serve], rfl, rfl, rfl⟩
  | cons c rest ih =>
      obtain ⟨acts, hActs, hCourse⟩ := c.course provider env j
      obtain ⟨later, hLater, hWorld, hCreates, hSubmits, hKills⟩ :=
        ih (c.environmentFrom env) (after (c.job provider env) j)
      obtain ⟨hSubmit, hKill⟩ := hCourse.balanced
      refine ⟨acts :: later, .cons hCourse hLater, ?_, ?_, ?_, ?_⟩
      · rw [serve, hWorld, hActs, List.flatten_cons, List.append_assoc]
      · rw [List.flatten_cons, List.countP_append, hCourse.creates_eq, hCreates, liveCalls]
      · rw [List.flatten_cons, List.countP_append, List.countP_append, hSubmit, hSubmits]
      · rw [List.flatten_cons, List.countP_append, List.countP_append, hKill, hKills]

end SnippetService.Sandbox
