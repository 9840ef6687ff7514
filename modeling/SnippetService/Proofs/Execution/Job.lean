import SnippetService.Execution.Executor
/-!
What jobs come to. A job ends with a value or a failure, and leaves a journal either way; the lemmas give
both for each way of putting jobs together, so that later proofs never open the monad.
-/
namespace SnippetService

variable {σ ρ α β : Type}

namespace Journal

/-- A journal with one more act on engines. -/
def noted (j : Journal σ) (e : EngineEvent) : Journal σ := { j with events := j.events ++ [e] }

/-- A journal with more log records. -/
def logged (j : Journal σ) (records : List LogRecord) : Journal σ :=
  { j with logs := j.logs ++ records }

/-- A journal of another host. -/
def hosting (j : Journal σ) (h : ρ) : Journal ρ := ⟨h, j.logs, j.events⟩

@[simp]
theorem noted_host (j : Journal σ) (e : EngineEvent) : (j.noted e).host = j.host := rfl

@[simp]
theorem noted_events (j : Journal σ) (e : EngineEvent) : (j.noted e).events = j.events ++ [e] := rfl

@[simp]
theorem logged_host (j : Journal σ) (records : List LogRecord) : (j.logged records).host = j.host := rfl

@[simp]
theorem logged_events (j : Journal σ) (records : List LogRecord) :
    (j.logged records).events = j.events := rfl

@[simp]
theorem hosting_host (j : Journal σ) (h : ρ) : (j.hosting h).host = h := rfl

@[simp]
theorem hosting_events (j : Journal σ) (h : ρ) : (j.hosting h).events = j.events := rfl

end Journal

namespace Job

/-- What a job comes to, and the journal that it leaves. -/
def ending (job : Job σ α) (j : Journal σ) : Except Failure α × Journal σ :=
  match job j with
  | .ok a k => (.ok a, k)
  | .error f k => (.error f, k)

/-- The journal that a job leaves, however it ends. -/
def after (job : Job σ α) (j : Journal σ) : Journal σ := (ending job j).2

@[simp]
theorem ending_pure (a : α) (j : Journal σ) : ending (pure a : Job σ α) j = (.ok a, j) := rfl

@[simp]
theorem ending_bind (x : Job σ α) (f : α → Job σ β) (j : Journal σ) :
    ending (x >>= f) j =
      match ending x j with
      | (.ok a, k) => ending (f a) k
      | (.error e, k) => (.error e, k) := by
  change ending (EStateM.bind x f) j = _
  unfold ending EStateM.bind
  cases x j <;> rfl

@[simp]
theorem ending_map (f : α → β) (x : Job σ α) (j : Journal σ) :
    ending (f <$> x) j = ((ending x j).1.map f, (ending x j).2) := by
  change ending (EStateM.map f x) j = _
  unfold ending EStateM.map
  cases x j <;> rfl

@[simp]
theorem ending_fail (f : Failure) (j : Journal σ) : ending (fail f : Job σ α) j = (.error f, j) := rfl

@[simp]
theorem ending_ofExcept (r : Except Failure α) (j : Journal σ) :
    ending (ofExcept r : Job σ α) j = (r, j) := by
  cases r <;> rfl

@[simp]
theorem ending_outcome (x : Job σ α) (j : Journal σ) :
    ending (outcome x) j = (.ok (ending x j).1, after x j) := by
  unfold after ending outcome
  cases x j <;> rfl

@[simp]
theorem ending_log (level : LogLevel) (area : LogArea) (message : Text) (j : Journal σ) :
    ending (log level area message) j =
      (.ok (), j.logged [⟨level, area, message⟩]) := rfl

@[simp]
theorem ending_tell (e : EngineEvent) (j : Journal σ) :
    ending (tell e) j = (.ok (), j.noted e) := rfl

@[simp]
theorem ending_host (j : Journal σ) : ending host j = (.ok j.host, j) := rfl

@[simp]
theorem ending_setHost (h : σ) (j : Journal σ) :
    ending (setHost h) j = (.ok (), j.hosting h) := rfl

@[simp]
theorem ending_modifyHost (f : σ → σ) (j : Journal σ) :
    ending (modifyHost f) j = (.ok (), j.hosting (f j.host)) := rfl

@[simp]
theorem ending_within (enter : σ → ρ) (leave : σ → ρ → σ) (x : Job ρ α) (j : Journal σ) :
    ending (within enter leave x) j =
      ((ending x (j.hosting (enter j.host))).1,
        (after x (j.hosting (enter j.host))).hosting
          (leave j.host (after x (j.hosting (enter j.host))).host)) := by
  unfold after ending within Journal.hosting
  cases x ⟨enter j.host, j.logs, j.events⟩ <;> rfl

/-- A job that adds nothing to the record of acts on engines, and takes nothing from it. -/
def Quiet (job : Job σ α) : Prop := ∀ j, (after job j).events = j.events

namespace Quiet

theorem pure (a : α) : Quiet (Pure.pure a : Job σ α) := fun _ => rfl

theorem bind {x : Job σ α} {f : α → Job σ β} (hx : Quiet x) (hf : ∀ a, Quiet (f a)) :
    Quiet (x >>= f) := by
  intro j
  have hFirst := hx j
  simp only [after, ending_bind] at hFirst ⊢
  rcases he : ending x j with ⟨r, k⟩
  rw [he] at hFirst
  cases r with
  | ok a => exact (hf a k).trans hFirst
  | error f => exact hFirst

theorem fail (f : Failure) : Quiet (Job.fail f : Job σ α) := fun _ => rfl

theorem outcome {x : Job σ α} (hx : Quiet x) : Quiet (Job.outcome x) := by
  intro j
  simpa [after] using hx j

theorem log (level : LogLevel) (area : LogArea) (message : Text) :
    Quiet (Job.log level area message : Job σ Unit) := fun _ => rfl

theorem host : Quiet (Job.host : Job σ σ) := fun _ => rfl

theorem setHost (h : σ) : Quiet (Job.setHost h) := fun _ => rfl

theorem modifyHost (f : σ → σ) : Quiet (Job.modifyHost f) := fun _ => rfl

end Quiet

end Job

end SnippetService
