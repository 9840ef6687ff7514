import SnippetService.Proofs.Execution.Answerable
import SnippetService.Proofs.Text.Point
import SnippetService.Sandbox.Engine
/-!
What the parts of a call do with a session of remote code: asking for one, running code on it, killing it, and the
answer that needs none.
-/
namespace SnippetService.Sandbox

open Job

variable {κ : Type}

/-- A key that counts as none. -/
def IsFalsy (key : Option String) : Prop := key = none ∨ key = some ""

theorem isConfigured_iff {provider : Option (Provider κ)} {key : Option String} :
    isConfigured provider key = true ↔ (∃ p, provider = some p) ∧ ¬IsFalsy key := by
  cases provider <;> cases key <;> simp [isConfigured, IsFalsy]

theorem isConfigured_eq_false_iff {provider : Option (Provider κ)} {key : Option String} :
    isConfigured provider key = false ↔ provider = none ∨ IsFalsy key := by
  cases provider <;> cases key <;> simp [isConfigured, IsFalsy]

theorem ending_onWorld {α : Type} (act : κ → Except Failure α × κ) (j : Journal (Session κ)) :
    ending (onWorld act) j =
      ((act j.host.world).1, j.hosting { j.host with world := (act j.host.world).2 }) := by
  simp [onWorld]

theorem ending_build_refused {p : Provider κ} {j : Journal (Session κ)} {f : Failure}
    (hCreate : (p.create j.host.world).1 = .error f) :
    ending (build (some p)) j =
      (.error f, j.hosting { j.host with world := (p.create j.host.world).2 }) := by
  simp [build, ending_onWorld, hCreate]

theorem ending_build_had {p : Provider κ} {j : Journal (Session κ)}
    (hCreate : (p.create j.host.world).1 = .ok ()) :
    ending (build (some p)) j =
      (.ok (engine p), j.hosting ⟨(p.create j.host.world).2, true⟩) := by
  simp [build, ending_onWorld, hCreate, Journal.hosting, Except.map]

/-- Running code submits it once, and leaves the session held, however the run ends. -/
theorem host_perform {p : Provider κ} (code : Text) {j : Journal (Session κ)}
    (hHeld : j.host.isHeld = true) :
    (after ((engine p).perform (some code) .nothing) j).host =
      ⟨(p.run code j.host.world).2, true⟩ := by
  simp only [after, Engine.perform, engine, execute, ending_bind, ending_tell, ending_host,
    Journal.noted_host, hHeld, Bool.not_true, Bool.false_eq_true, ↓reduceIte, ending_onWorld,
    Option.getD_some]
  cases (p.run code j.host.world).1 <;> rfl

/-- Disposing of a held session kills it once, and leaves none held, however the kill ends. -/
theorem host_dispose {p : Provider κ} {j : Journal (Session κ)} (hHeld : j.host.isHeld = true) :
    (after (engine p).dispose j).host = ⟨(p.kill j.host.world).2, false⟩ := by
  simp only [after, engine, dispose, ending_bind, ending_host, hHeld, ↓reduceIte, ending_modifyHost,
    ending_onWorld, Journal.hosting_host]
  cases (p.kill j.host.world).1 <;> rfl

theorem exists_of_hasCode {code : Option Text} (hGiven : Executor.hasCode code = true) :
    ∃ text, code = some text := by
  cases code with
  | none => cases hGiven
  | some text => exact ⟨text, rfl⟩

section

variable {provider : Option (Provider κ)} {key : Option String} {code : Text}
  {options : Options} {elapsed : Nat}

theorem world_attempt_refused {p : Provider κ} {j : Journal (Session κ)} {f : Failure}
    (hCreate : (p.create j.host.world).1 = .error f) :
    (after ((executor (some p) key).attempt (some code) options) j).host.world =
      (p.create j.host.world).2 := by
  have hBuild : ending (executor (some p) key).build (j.noted .build) = (.error f, _) :=
    ending_build_refused (j := j.noted .build) hCreate
  rw [after, Executor.ending_attempt_unbuilt hBuild]
  rfl

/-- A session that is had is used once and then killed once, in this order. -/
theorem world_attempt_had {p : Provider κ} {j : Journal (Session κ)}
    (hCreate : (p.create j.host.world).1 = .ok ()) :
    (after ((executor (some p) key).attempt (some code) options) j).host.world =
      (p.kill (p.run code (p.create j.host.world).2).2).2 := by
  have hBuild : ending (executor (some p) key).build (j.noted .build) = (.ok (engine p), _) :=
    ending_build_had (j := j.noted .build) hCreate
  have hRun := host_perform (p := p) code
    (j := (j.noted .build).hosting ⟨(p.create j.host.world).2, true⟩) rfl
  rw [Executor.host_attempt_built hBuild, host_dispose]
  · exact congrArg (fun h => (p.kill h.world).2) hRun
  · exact congrArg Session.isHeld hRun

/-- What is answered in the place of a run is made of characters if the code is. -/
@[simp]
theorem isPlain_demoOutput (code : Text) : (demoOutput code).isPlain = code.isPlain := by simp [demoOutput]

/-- Without a way to sessions or a key, the call is answered at once and the world is left alone. -/
theorem ending_execute_demo {j : Journal (Session κ)} (hGiven : Executor.hasCode (some code) = true)
    (hOff : isConfigured provider key = false) :
    ending ((executor provider key).execute elapsed (some code) options) j =
      (.ok ((demoResult code).timed elapsed),
        j.logged [⟨.info, .python, "No E2B credential configured; answering in demo mode"⟩]) := by
  apply Executor.ending_execute_early hGiven
  simp [executor, hOff, Except.map]

/-- With a way to sessions and a key, nothing is answered before a session is asked for. -/
theorem ending_preflight_live {code : Option Text} {j : Journal (Session κ)}
    (hOn : isConfigured provider key = true) :
    ending ((executor provider key).preflight code options) j = (.ok none, j) := by
  simp [executor, hOn]

theorem after_execute_live {j : Journal (Session κ)} (hGiven : Executor.hasCode (some code) = true)
    (hOn : isConfigured provider key = true) :
    after ((executor provider key).execute elapsed (some code) options) j =
      after ((executor provider key).attempt (some code) options) j := by
  rw [after, Executor.ending_execute_attempted hGiven (ending_preflight_live hOn)]

/-- A provider that fails only in ways that can be answered. -/
structure Provider.IsOrdinary (p : Provider κ) : Prop where
  create : ∀ world, Answerable (p.create world).1
  run : ∀ code world, Answerable (p.run code world).1
  kill : ∀ world, Answerable (p.kill world).1

theorem isAnswerable_onWorld {α : Type} {act : κ → Except Failure α × κ}
    (hAct : ∀ world, Answerable (act world).1) : (onWorld act).IsAnswerable := by
  intro j
  rw [ending_onWorld]
  exact hAct _

theorem isAnswerable_execute {p : Provider κ} (hOrdinary : p.IsOrdinary) (code : Option Text) :
    (execute p code).IsAnswerable := by
  refine Yields.host.bind fun s _ => ?_
  split
  · exact .fail rfl
  · exact (isAnswerable_onWorld (hOrdinary.run _)).bind fun r _ => .pure trivial

theorem isAnswerable_dispose {p : Provider κ} (hOrdinary : p.IsOrdinary) :
    (dispose p).IsAnswerable := by
  refine Yields.host.bind fun s _ => ?_
  split
  · exact (Yields.modifyHost _).bind fun _ _ => (isAnswerable_onWorld hOrdinary.kill).bind fun _ _ =>
      Yields.log _ _ _
  · exact .pure trivial

theorem ending_perform_held {p : Provider κ} (code : Text) {j : Journal (Session κ)}
    (hHeld : j.host.isHeld = true) :
    (ending ((engine p).perform (some code) .nothing) j).1 =
      (p.run code j.host.world).1.map Run.result := by
  simp only [Engine.ending_perform, engine, execute, ending_bind, ending_host, Journal.noted_host,
    hHeld, Bool.not_true, Bool.false_eq_true, ↓reduceIte, ending_onWorld, Option.getD_some]
  cases (p.run code j.host.world).1 <;> rfl

/-- A live call whose session is refused is answered with the refusal. -/
theorem ending_execute_refused {p : Provider κ} {j : Journal (Session κ)} {f : Failure}
    (hGiven : Executor.hasCode (some code) = true) (hOn : isConfigured (some p) key = true)
    (hOrdinary : p.IsOrdinary) (hCreate : (p.create j.host.world).1 = .error f) :
    (ending ((executor (some p) key).execute elapsed (some code) options) j).1 =
      .ok (((executor (some p) key).resultOf (.error f)).timed elapsed) := by
  have hAnswerable := hOrdinary.create j.host.world
  rw [hCreate] at hAnswerable
  exact Executor.ending_execute_unbuilt hGiven (ending_preflight_live hOn)
    (ending_build_refused (j := j.noted .build) hCreate) hAnswerable

/-- A live call that has a session is answered with what the run of its code comes to. -/
theorem ending_execute_had {p : Provider κ} {j : Journal (Session κ)}
    (hGiven : Executor.hasCode (some code) = true) (hOn : isConfigured (some p) key = true)
    (hOrdinary : p.IsOrdinary) (hCreate : (p.create j.host.world).1 = .ok ()) :
    (ending ((executor (some p) key).execute elapsed (some code) options) j).1 =
      .ok (((executor (some p) key).resultOf
        ((p.run code (p.create j.host.world).2).1.map Run.result)).timed elapsed) := by
  have hRun : ((executor (some p) key).run (engine p) (some code) options).IsAnswerable :=
    (Yields.tell _).bind fun _ _ => isAnswerable_execute hOrdinary _
  rw [Executor.ending_execute_built hGiven (ending_preflight_live hOn)
    (ending_build_had (j := j.noted .build) hCreate) hRun (isAnswerable_dispose hOrdinary)]
  exact congrArg (fun r => Except.ok (((executor (some p) key).resultOf r).timed elapsed))
    (ending_perform_held code rfl)

end

end SnippetService.Sandbox
