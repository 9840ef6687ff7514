import Mathlib.Data.Option.Basic
import SnippetService.Proofs.Execution.Clock
import SnippetService.Proofs.Http.Emptiness
/-!
Requests that do not influence each other. Two applications whose backends are twins answer alike but for the time, on
any two journals, if the world adds the same. An application that keeps the hosts of all its engines in one memory is a
twin of one in which each request has hosts of its own, and this one is a twin of itself. So a request is answered as it
is alone, whatever the requests before it have left behind; and if what the world adds has no part in what it comes to,
it is answered so at any time.
-/
namespace SnippetService

open Job

variable {κ σ ρ τ υ : Type}

namespace Backend

/-- A backend whose executor works on a part of the host. -/
def part (language : String) (enter : σ → τ) (leave : σ → τ → σ) (x : Chance → Executor τ) : Backend σ where
  language := language
  execute t code options := Job.within enter leave ((x t.chance).execute t.elapsed code options)

/-- Backends that give the same results but for the time, on any hosts, if the world adds the same. -/
structure Twins (b : Backend σ) (c : Backend ρ) : Prop where
  language : b.language = c.language
  execute : ∀ {t u : Moment}, t.chance = u.chance → ∀ code options,
    Agree (fun _ _ => True) RunResult.Same (b.execute t code options) (c.execute u code options)

/-- Twins of executors do the same on parts of hosts that are always related. -/
theorem agree_within {I : τ → υ → Prop} {x : Executor τ} {y : Executor υ} (hTwins : x.Twins I y)
    {enterX : σ → τ} {enterY : ρ → υ} {leaveX : σ → τ → σ} {leaveY : ρ → υ → ρ}
    (hParts : ∀ s t, I (enterX s) (enterY t)) (elapsed other : Nat) (code : Option Text) (options : Options) :
    Agree (fun _ _ => True) RunResult.Same (Job.within enterX leaveX (x.execute elapsed code options))
      (Job.within enterY leaveY (y.execute other code options)) := by
  intro j k _
  have hEnds := hTwins.execute (j := j.hosting (enterX j.host)) (k := k.hosting (enterY k.host))
    (hParts j.host k.host) elapsed other code options
  simp only [ending_within]
  exact ⟨hEnds, trivial⟩

/-- Backends whose engines are placed in one memory do as those that have new hosts. -/
theorem twins_placing (c : Coordinator) (language : String) {e : Engine ρ} (hEngine : e.Composed)
    (host : Chance → Except Failure ρ) (enter : σ → List ρ) (leave : σ → List ρ → σ) :
    (part language enter leave fun chance => c.executor (e.placing (host chance))).Twins
      (onFresh language (fun _ => c.executor) e host : Backend τ) where
  language := rfl
  execute := by
    intro t u hChance code options j k _
    refine ⟨?_, trivial⟩
    unfold part
    dsimp only
    rw [ending_within]
    exact placing_agrees c language hEngine host hChance code options _ k

end Backend

/-- An envelope but for the time. -/
def Envelope.untimed (e : Envelope) : Envelope := { e with elapsed := e.elapsed.map fun _ => 0 }

/-- The envelope of a result takes nothing from its time but the time. -/
theorem RunResult.untimed_envelope (r : RunResult) (language : String) (error : Option Text) :
    (r.envelope language error).untimed = r.untimed.envelope language error := by
  simp only [envelope, Envelope.untimed, untimed, Option.map_map, Function.comp_def]
  rfl

/-- What can be written of an envelope does not depend on its time. -/
theorem Envelope.written_untimed (limits : WriteLimits) (e : Envelope) :
    e.untimed.written limits = (e.written limits).map Envelope.untimed := by
  unfold written
  change (if e.texts.all Text.isPlain then match e.results with | _ => _ else _) = _
  cases e.texts.all Text.isPlain with
  | false => rfl
  | true =>
      cases hResults : e.results with
      | none => simp [untimed, hResults]
      | some ds =>
          cases hItems : wireItems limits (some .null) limits.depth ds <;> simp [untimed, hResults, hItems]

namespace Http

/-- A field of a reply but for the time: whether a time is told is seen, but not which. -/
def untimedField (field : Text × Datum) : Text × Datum :=
  match field with
  | (name, .integer n) => (name, .integer (if name = "executionTimeMs" then 0 else n))
  | (name, d) => (name, d)

/-- A reply but for the time that it tells. -/
def Reply.untimed (reply : Reply) : Reply :=
  match reply.content with
  | .json (.record fields) => { reply with content := .json (.record (fields.map untimedField)) }
  | _ => reply

theorem Reply.status_untimed (reply : Reply) : reply.untimed.status = reply.status := by
  unfold Reply.untimed
  split <;> rfl

/-- Replies that differ in the time at most. -/
def Reply.Same (first second : Reply) : Prop := first.untimed = second.untimed

theorem Reply.Same.status {first second : Reply} (hSame : first.Same second) : first.status = second.status := by
  have hStatus := congrArg Reply.status hSame
  rwa [Reply.status_untimed, Reply.status_untimed] at hStatus

theorem Reply.Same.forMethod {first second : Reply} (hSame : first.Same second) (method : String) :
    (first.forMethod method).Same (second.forMethod method) := by
  unfold Reply.forMethod
  split
  · rw [Reply.Same, hSame.status]
  · exact hSame

theorem untimedField_of_ne {name : Text} (hName : name ≠ "executionTimeMs") (d : Datum) :
    untimedField (name, d) = (name, d) := by
  cases d <;> simp [untimedField, hName]

namespace Application

/-- What is sent of an envelope tells the time of the envelope, and nothing else of it changes with the time. -/
theorem untimed_sent (status : Nat) (e : Envelope) :
    (Reply.mk status (.json e.toDatum)).untimed = ⟨status, .json e.untimed.toDatum⟩ := by
  have hTime : untimedField (("executionTimeMs" : Text), (e.elapsed.map Datum.integer).getD .null) =
      (("executionTimeMs" : Text), (e.untimed.elapsed.map Datum.integer).getD .null) := by
    unfold Envelope.untimed
    cases e.elapsed <;> rfl
  rw [toDatum_eq, toDatum_eq]
  simp only [Reply.untimed, sentFields, List.map_cons, List.map_nil, hTime]
  rw [untimedField_of_ne (by decide), untimedField_of_ne (by decide), untimedField_of_ne (by decide),
    untimedField_of_ne (by decide), untimedField_of_ne (by decide), untimedField_of_ne (by decide),
    untimedField_of_ne (by decide)]
  rfl

variable {b : Backend σ} {d : Backend ρ} {a : Application σ} {c : Application ρ} {t u : Moment} {I : σ → ρ → Prop}

theorem envelopeOf_agrees (hLanguage : b.language = d.language) {r s : RunResult} (hSame : r.Same s) :
    Agrees (fun e o => e.untimed = o.untimed) (envelopeOf b r) (envelopeOf d s) := by
  have hUntimed : r.untimed = s.untimed := hSame
  have hReason : r.untimed.error = s.untimed.error := by rw [hUntimed]
  change r.error = s.error at hReason
  cases hError : Checked.optional Field.text r.error with
  | error issues =>
      rw [envelopeOf_unfit b hError, envelopeOf_unfit d (hReason ▸ hError)]
      exact .error _
  | ok error =>
      rw [envelopeOf_ok b hError, envelopeOf_ok d (hReason ▸ hError)]
      refine .ok ?_
      rw [RunResult.untimed_envelope, RunResult.untimed_envelope, hLanguage, hUntimed]

theorem envelopeReply_agrees (hLimits : a.envelopeLimits = c.envelopeLimits) (status : Nat) {e o : Envelope}
    (hSame : e.untimed = o.untimed) :
    Agrees Reply.Same (a.envelopeReply status e) (c.envelopeReply status o) := by
  have hWritten := (e.written_untimed c.envelopeLimits).symm.trans
    ((congrArg (Envelope.written c.envelopeLimits) hSame).trans (o.written_untimed c.envelopeLimits))
  unfold envelopeReply
  rw [hLimits]
  cases hFirst : e.written c.envelopeLimits with
  | none =>
      rw [hFirst, Option.map_none, eq_comm, Option.map_eq_none_iff] at hWritten
      rw [hWritten]
      exact .error _
  | some v =>
      rw [hFirst, Option.map_some, eq_comm, Option.map_eq_some_iff] at hWritten
      obtain ⟨w, hSecond, hUntimed⟩ := hWritten
      rw [hSecond]
      refine .ok ?_
      rw [Reply.Same, untimed_sent, untimed_sent, hUntimed]

/-- Backends that answer a request alike but for the time. -/
structure AgreeOn (I : σ → ρ → Prop) (t u : Moment) (r : Request) (b : Backend σ) (d : Backend ρ) : Prop where
  language : b.language = d.language
  execute : Agree I RunResult.Same (b.execute t (some r.code) (optionsOf r)) (d.execute u (some r.code) (optionsOf r))

/-- Applications that ask for the same key and write as much. -/
structure Akin (a : Application σ) (c : Application ρ) : Prop where
  settings : a.settings = c.settings
  envelopeLimits : a.envelopeLimits = c.envelopeLimits
  issueLimits : a.issueLimits = c.issueLimits

/-- Runs on two backends agree if the backends do. -/
theorem run_agree (hAkin : a.Akin c) {r : Request} (hBackends : AgreeOn I t u r b d) (f : Family) :
    Agree I Reply.Same (a.run t f b r) (c.run u f d r) := by
  refine (Agree.log _ _ _ _ _ _).bind fun _ _ _ => ?_
  refine hBackends.execute.outcome.bind fun first second hEnds => ?_
  cases hEnds with
  | error failure =>
      dsimp only
      split
      · exact (Agree.log _ _ _ _ _ _).bind fun _ _ _ => .pure rfl
      · exact .fail failure
  | ok hSame =>
      refine (Agree.ofExcept (envelopeOf_agrees hBackends.language hSame)).bind fun e o hEnvelope => ?_
      exact (Agree.log _ _ _ _ _ _).bind fun _ _ _ =>
        .ofExcept (envelopeReply_agrees hAkin.envelopeLimits _ hEnvelope)

/-- A tag leads to backends that answer a request alike, or to nothing. -/
def Leads (I : σ → ρ → Prop) (t u : Moment) (r : Request) (tag : Option Text) (a : Application σ)
    (c : Application ρ) : Prop :=
  Option.Rel (fun p q => p.1 = q.1 ∧ AgreeOn I t u r p.2 q.2) (a.backend? tag r.hasBinary)
    (c.backend? tag r.hasBinary)

theorem leads_of_backends {r : Request} {tag : Option Text}
    (hBackends : ∀ f, Family.resolve tag r.hasBinary = some f →
      Option.Rel (AgreeOn I t u r) (a.backends f) (c.backends f)) : Leads I t u r tag a c := by
  unfold Leads backend?
  cases hFamily : Family.resolve tag r.hasBinary with
  | none => exact .none
  | some f =>
      change Option.Rel _ ((a.backends f).bind fun b => some (f, b)) ((c.backends f).bind fun d => some (f, d))
      have hBackend := hBackends f hFamily
      generalize a.backends f = first at hBackend ⊢
      generalize c.backends f = second at hBackend ⊢
      cases hBackend with
      | none => exact .none
      | some hAlike => exact .some ⟨rfl, hAlike⟩

theorem dispatch_agree (hAkin : a.Akin c) {r : Request} {tag : Option Text} (hLeads : Leads I t u r tag a c) :
    Agree I Reply.Same (a.dispatch t r tag) (c.dispatch u r tag) := by
  unfold dispatch
  unfold Leads at hLeads
  generalize a.backend? tag r.hasBinary = first at hLeads ⊢
  generalize c.backend? tag r.hasBinary = second at hLeads ⊢
  cases hLeads with
  | none =>
      refine (Agree.log _ _ _ _ _ _).bind fun _ _ _ => .ofExcept ?_
      exact (Agrees.refl _).mono fun _ _ hSame => congrArg Reply.untimed hSame
  | @some p q hPair =>
      obtain ⟨hFamily, hBackend⟩ := hPair
      dsimp only
      rw [hFamily]
      exact run_agree hAkin hBackend q.1

/-- A request is served alike where its tag leads to backends that answer it alike. -/
theorem serve_agree (hAkin : a.Akin c) {i : Incoming}
    (hLeads : ∀ r tag, readRequest i = .ok r → (Destination.of i.method i.path).tag? r = some tag →
      Leads I t u r tag a c) : Agree I Reply.Same (a.serve t i) (c.serve u i) := by
  have hBody (tag : Option Text) (hTag : ∀ r, readRequest i = .ok r → Leads I t u r (tag <|> r.language) a c) :
      Agree I Reply.Same (a.executeBody t i tag) (c.executeBody u i tag) := by
    unfold executeBody
    cases hRead : readRequest i with
    | ok r => exact dispatch_agree hAkin (hTag r hRead)
    | error fault =>
        cases fault with
        | unreadable => exact .pure rfl
        | invalid issues =>
            refine .ofExcept ?_
            unfold issuesReply
            rw [hAkin.issueLimits]
            exact (Agrees.refl _).mono fun _ _ hSame => congrArg Reply.untimed hSame
  unfold serve
  cases hDestination : Destination.of i.method i.path with
  | route place =>
      rw [hDestination] at hLeads
      cases place with
      | health => exact .pure rfl
      | execute => exact hBody none fun r hRead => hLeads r r.language hRead rfl
      | executeIn tag => exact hBody (some tag) fun r hRead => hLeads r (some tag) hRead rfl
  | _ => exact .pure rfl

/-- Two requests are answered alike if both or none of them are admitted, the path of both or of none can be told, and
they are served alike. -/
theorem handle_agree_of_serve {i k : Incoming} (hMethod : i.method = k.method) (hAdmits : a.admits i = c.admits k)
    (hPath : i.shownPath?.isSome = k.shownPath?.isSome)
    (hServe : a.admits i = true → Agree I Reply.Same (a.serve t i) (c.serve u k)) :
    Agree I Reply.Same (a.handle t i) (c.handle u k) := by
  refine Agree.bind (R := Reply.Same) ?_ fun first second hSame => .pure (hMethod ▸ hSame.forMethod i.method)
  unfold answer
  cases hFirst : i.shownPath? with
  | none =>
      rw [hFirst] at hPath
      rw [Option.isSome_eq_false_iff.mp hPath.symm |> Option.isNone_iff_eq_none.mp]
      exact .pure rfl
  | some path =>
      rw [hFirst] at hPath
      obtain ⟨other, hSecond⟩ := Option.isSome_iff_exists.mp hPath.symm
      rw [hSecond]
      refine (Agree.log _ _ _ _ _ _).bind fun _ _ _ => ?_
      rw [← hAdmits]
      cases hLet : a.admits i with
      | false => exact (Agree.log _ _ _ _ _ _).bind fun _ _ _ => .pure rfl
      | true =>
          refine (hServe hLet).outcome.bind fun first second hEnds => ?_
          cases hEnds with
          | ok hSame => exact (Agree.log _ _ _ _ _ _).bind fun _ _ _ => .pure hSame
          | error f =>
              dsimp only
              split
              · exact .pure rfl
              · exact .fail f

/-- Applications that are akin, and whose backends are twins family by family. -/
structure Twins (a : Application σ) (c : Application ρ) : Prop extends Akin a c where
  backends : ∀ f, Option.Rel Backend.Twins (a.backends f) (c.backends f)

/-- Twins send the same replies but for the time, whatever they have handled before, if the world adds the same. -/
theorem handle_agree (hTwins : a.Twins c) (hChance : t.chance = u.chance) (i : Incoming) :
    Agree (fun _ _ => True) Reply.Same (a.handle t i) (c.handle u i) := by
  have hLeads (r : Request) (tag : Option Text) : Leads (fun _ _ => True) t u r tag a c := by
    refine leads_of_backends fun f _ => ?_
    have hBackends := hTwins.backends f
    generalize a.backends f = first at hBackends ⊢
    generalize c.backends f = second at hBackends ⊢
    cases hBackends with
    | none => exact .none
    | some hPair => exact .some ⟨hPair.language, hPair.execute hChance _ _⟩
  exact handle_agree_of_serve rfl (by rw [admits, admits, hTwins.settings]) rfl
    fun _ => serve_agree hTwins.toAkin fun r tag _ _ => hLeads r tag

/-- What the requests to an application share: the hosts of all engines that there have been, and the session and the
world of remote code. -/
structure Memory (κ υ : Type) where
  contexts : List (Snippet.Session κ) := []
  machines : List Wasm.EngineState := []
  session : Sandbox.Session υ

/-- The application with one memory. Nothing is ever taken out of it; each family has one executor, whose engines are
placed in it one behind the other. -/
def inMemory (p : Platform κ) (s : Settings) (provider : Option (Sandbox.Provider υ)) (key : Option String) :
    Application (Memory κ υ) where
  settings := s
  backends f :=
    if s.allowed.contains f then
      some (match f with
        | .javascript => .part Family.javascript.name Memory.contexts
            (fun m contexts => { m with contexts := contexts })
          fun chance => Snippet.executor ((Snippet.engine p.contexts.access).placing (p.session s chance))
        | .wasm => .part Family.wasm.name Memory.machines (fun m machines => { m with machines := machines })
          fun chance => Wasm.executor (Wasm.engine.placing (.ok (p.machine s chance)))
        | .python => .part Family.python.name Memory.session (fun m session => { m with session := session })
          fun _ => Sandbox.executor provider key)
    else none
  envelopeLimits := p.envelopeLimits
  issueLimits := p.issueLimits

variable {provider : Option (Sandbox.Provider υ)}

theorem twins_remote (hFixed : ∀ q, provider = some q → q.IsFixed) (key : Option String)
    {enter : σ → Sandbox.Session υ} (leave : σ → Sandbox.Session υ → σ) :
    (Backend.part Family.python.name enter leave fun _ => Sandbox.executor provider key).Twins
      (Backend.remote provider key) where
  language := rfl
  execute := by
    intro t u _ code options
    dsimp only [Backend.part, Backend.remote]
    exact Backend.agree_within (Sandbox.twins_refl hFixed key) (fun _ _ => trivial) t.elapsed u.elapsed code options

/-- Applications agree on the families that are allowed, if their backends are twins. -/
theorem rel_allowed {s : Settings} {first : Family → Backend σ} {second : Family → Backend ρ}
    (hBackends : ∀ f, (first f).Twins (second f)) (f : Family) :
    Option.Rel Backend.Twins (if s.allowed.contains f then some (first f) else none)
      (if s.allowed.contains f then some (second f) else none) := by
  split
  · exact .some (hBackends f)
  · exact .none

/-- An application in which each request has hosts of its own is a twin of itself. -/
theorem twins_ofSettings (hFixed : ∀ q, provider = some q → q.IsFixed) (p : Platform κ) (s : Settings)
    (key : Option String) :
    (ofSettings p s (.remote provider key)).Twins (ofSettings p s (.remote provider key)) where
  settings := rfl
  envelopeLimits := rfl
  issueLimits := rfl
  backends := by
    refine rel_allowed fun f => ?_
    cases f with
    | javascript => exact ⟨rfl, fun hChance _ _ => Backend.scripts_repeats (.inr hChance)⟩
    | wasm => exact ⟨rfl, fun hChance _ _ => Backend.modules_repeats (.inr hChance)⟩
    | python => exact twins_remote hFixed key _

/-- An application with one memory is a twin of it. -/
theorem twins_inMemory (hFixed : ∀ q, provider = some q → q.IsFixed) (p : Platform κ) (s : Settings)
    (key : Option String) :
    (inMemory p s provider key).Twins (ofSettings p s (.remote provider key)) where
  settings := rfl
  envelopeLimits := rfl
  issueLimits := rfl
  backends := by
    refine rel_allowed fun f => ?_
    cases f with
    | javascript =>
        exact Backend.twins_placing .scripts Family.javascript.name (Snippet.composed_engine _) (p.session s) _ _
    | wasm =>
        exact Backend.twins_placing .modules Family.wasm.name Wasm.composed_engine
          (fun chance => .ok (p.machine s chance)) _ _
    | python => exact twins_remote hFixed key _

/-- The reply to a request that is the only one on a host, but for the time. -/
def alone (a : Application σ) (host : σ) (t : Moment) (i : Incoming) : Except Failure Reply :=
  (ending (a.handle t i) ⟨host, [], []⟩).1.map Reply.untimed

/-- The requests to an application are answered one by one as by its twin. -/
theorem Twins.isolated (hTwins : a.Twins c) (host : ρ) : Isolated Reply.untimed a.handle (c.alone host) :=
  .of_alone fun _ i j => Agrees.view_iff.mp (handle_agree hTwins rfl i j _ trivial).1

/-- Only to a method that executes a tag is given. -/
theorem method_of_tag? {method path : String} {r : Request} {tag : Option Text}
    (hTag : (Destination.of method path).tag? r = some tag) : method = "POST" := by
  unfold Destination.of at hTag
  split at hTag
  · rename_i place _
    split at hTag
    · rename_i hMethod
      cases place with
      | health => cases hTag
      | _ => exact eq_of_beq hMethod
    · cases hTag
  · dsimp only at hTag
    split at hTag <;> cases hTag

/-- A tag leads an application to a backend that answers a request alike but for the time, if the world adds the same or
what it adds has no part in what the request comes to. -/
theorem leads_ofSettings (p : Platform κ) (s : Settings) (provider : Option (Sandbox.Provider υ)) (key : Option String)
    {r : Request} {tag : Option Text} (hSettles : ∀ f, Family.resolve tag r.hasBinary = some f →
      p.Settles s (some r.code) (optionsOf r) f ∨ t.chance = u.chance) :
    Leads (· = ·) t u r tag (ofSettings p s (.remote provider key)) (ofSettings p s (.remote provider key)) := by
  refine leads_of_backends fun f hFamily => ?_
  have hSettled := hSettles f hFamily
  simp only [ofSettings]
  split
  · refine .some ?_
    cases f with
    | javascript => exact ⟨rfl, Backend.scripts_repeats hSettled⟩
    | wasm => exact ⟨rfl, Backend.modules_repeats hSettled⟩
    | python => exact ⟨rfl, Backend.remote_repeats provider key t u _ _⟩
  · exact .none

/-- Where what the world adds has no part in what a request comes to, the request is answered alike at any time. -/
theorem steady_of_settles (p : Platform κ) (s : Settings) (key : Option String) (world : υ) {i : Incoming}
    (hSettles : ∀ r f, (ofSettings p s (.remote provider key)).Accepts i r f →
      p.Settles s (some r.code) (optionsOf r) f) :
    Steady ((ofSettings p s (.remote provider key)).alone world) i := by
  intro t u
  refine Agrees.view_iff.mp ?_
  refine (handle_agree_of_serve (I := (· = ·)) rfl rfl rfl (fun hAdmitted => ?_) _ _ rfl).1
  refine serve_agree ⟨rfl, rfl, rfl⟩ fun r tag hValid hTag => leads_ofSettings p s provider key fun f hFamily => ?_
  exact .inl (hSettles r f ⟨method_of_tag? hTag, hAdmitted, hValid, tag, hTag, hFamily⟩)

/-- Requests to one application do not influence each other, and neither do calls of one executor. Whatever was handled
before, each is answered as it is alone by a new one, but for the time that it takes; this holds where each request has
hosts of its own, and also where all engines stay in one memory. Alone means at the same moment: a script may look at
the clock. Where what the world adds has no part in what a request comes to, it is answered alike at any moment. -/
theorem handle_isolated (hFixed : ∀ q, provider = some q → q.IsFixed) (p : Platform κ) (s : Settings)
    (key : Option String) (world : υ) :
    let own := ofSettings p s (.remote provider key)
    let scripts := fun chance => Snippet.executor ((Snippet.engine p.contexts.access).placing (p.session s chance))
    let modules := fun chance => Wasm.executor (Wasm.engine.placing (.ok (p.machine s chance)))
    let sessions := fun _ => Sandbox.executor provider key
    Isolated Reply.untimed own.handle (own.alone world) ∧
    Isolated Reply.untimed (inMemory p s provider key).handle (own.alone world) ∧
    (∀ i, (∀ r f, own.Accepts i r f → p.Settles s (some r.code) (optionsOf r) f) → Steady (own.alone world) i) ∧
    Isolated RunResult.untimed (Executor.call scripts) (Executor.alone scripts []) ∧
    (∀ c, p.Settles s c.1 c.2 .javascript → Steady (Executor.alone scripts []) c) ∧
    Isolated RunResult.untimed (Executor.call modules) (Executor.alone modules []) ∧
    (∀ c, p.Settles s c.1 c.2 .wasm → Steady (Executor.alone modules []) c) ∧
    Isolated RunResult.untimed (Executor.call sessions) (Executor.alone sessions ⟨world, false⟩) ∧
    (∀ c, Steady (Executor.alone sessions ⟨world, false⟩) c) := by
  intro own scripts modules sessions
  have hSessions (_ : Chance) := Sandbox.twins_refl hFixed key
  refine ⟨?own, ?memory, ?steady, ?scripts, ?steadyScripts, ?modules, ?steadyModules, ?sessions, ?steadySessions⟩
  case own => exact (twins_ofSettings hFixed p s key).isolated world
  case memory => exact (twins_inMemory hFixed p s key).isolated world
  case steady => exact fun i hSettles => steady_of_settles p s key world hSettles
  case scripts => exact Executor.isolated_placing .scripts (p.session s) (Snippet.composed_engine _)
  case steadyScripts =>
    exact fun c hSettles => Executor.steady_placing .scripts (p.session s) (Snippet.composed_engine _)
      (Snippet.releases_engine _) hSettles
  case modules => exact Executor.isolated_placing .modules (fun chance => .ok (p.machine s chance)) Wasm.composed_engine
  case steadyModules =>
    exact fun c hSettles => Executor.steady_placing .modules (fun chance => .ok (p.machine s chance))
      Wasm.composed_engine Wasm.releases_engine hSettles
  case sessions => exact Executor.isolated_of_twins hSessions fun _ => trivial
  case steadySessions =>
    exact fun c t u => Agrees.view_iff.mp ((Sandbox.twins_refl hFixed key).execute trivial t.elapsed u.elapsed c.1 c.2)

/-- Two requests have the same replies in either order, also when every sandbox fails at its release. -/
theorem handle_isolated_swapped :
    let sandbox : Sandbox.Script := { onKill := some (.unexpected .value "gone") }
    let a := inMemory plainPlatform plainSettings (some sandbox.provider) (some "key")
    let j : Journal (Memory Unit Sandbox.Usage) := ⟨{ session := ⟨{}, false⟩ }, [], []⟩
    let early : Moment := ⟨7, fun _ => 0⟩
    let late : Moment := ⟨9, fun n => n⟩
    sandbox.provider.IsFixed ∧
    Rearranged [1, 0] (answers Reply.untimed a.handle [(early, plainRequest), (late, emptyRequest)] j)
      (answers Reply.untimed a.handle [(early, emptyRequest), (late, plainRequest)] j) := by
  intro sandbox a j early late
  have hKind : sandbox.provider.IsFixed :=
    { create := fun _ _ => rfl
      run := fun _ _ _ => rfl
      kill := fun _ _ => rfl }
  have hFixed : ∀ q, some sandbox.provider = some q → q.IsFixed := by
    intro q hSame
    cases hSame
    exact hKind
  obtain ⟨-, hIsolated, hSteady, -⟩ :=
    handle_isolated hFixed plainPlatform plainSettings (some "key") ({} : Sandbox.Usage)
  refine ⟨hKind, hIsolated.rearranged [1, 0] _ _ j j (fun q _ => hSteady q.2 fun r f _ => ?_) rfl⟩
  cases f with
  | javascript => exact fun _ _ => .refl _ _ _ _ _
  | wasm => exact fun _ _ => .refl _ _ _ _ _
  | python => trivial

end Application

end Http

end SnippetService
