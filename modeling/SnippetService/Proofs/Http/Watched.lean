import SnippetService.Http.Application
import SnippetService.Proofs.Execution.Job
/-!
Backends that are watched. Each call of a backend is put on a record beside the host, with the family of the backend
and all that it is given. Being watched changes nothing else, so the record tells which calls are made where nothing is
watched.
-/
namespace SnippetService

open Job

variable {σ α β : Type}

/-- A call of the backend of a family. -/
structure BackendCall where
  family : Family
  code : Option Text
  options : Options

/-- The backend of a family, with a record of its calls beside the host. -/
def Backend.watched (f : Family) (b : Backend σ) : Backend (σ × List BackendCall) where
  language := b.language
  execute t code options := do
    Job.modifyHost fun h => (h.1, h.2 ++ [⟨f, code, options⟩])
    Job.within Prod.fst (fun h s => (s, h.2)) (b.execute t code options)

/-- A journal with a record of calls beside the host. -/
def Journal.watched (j : Journal σ) (calls : List BackendCall) : Journal (σ × List BackendCall) :=
  j.hosting (j.host, calls)

namespace Job

/-- Work on a watched host that makes these calls: it does as the work on a host that is not watched, and the record
grows by the calls. -/
def Makes (calls : List BackendCall) (x : Job (σ × List BackendCall) α) (y : Job σ α) : Prop :=
  ∀ (j : Journal σ) (past : List BackendCall),
    ending x (j.watched past) = ((ending y j).1, (after y j).watched (past ++ calls))

namespace Makes

variable {calls : List BackendCall} {x : Job (σ × List BackendCall) α} {y : Job σ α}

theorem pure (a : α) : Makes [] (Pure.pure a : Job (σ × List BackendCall) α) (Pure.pure a : Job σ α) := by
  intro j past
  rw [List.append_nil]
  rfl

theorem fail (f : Failure) : Makes [] (Job.fail f : Job (σ × List BackendCall) α) (Job.fail f : Job σ α) := by
  intro j past
  rw [List.append_nil]
  rfl

theorem ofExcept (r : Except Failure α) :
    Makes [] (Job.ofExcept r : Job (σ × List BackendCall) α) (Job.ofExcept r : Job σ α) := by
  cases r with
  | ok a => exact pure a
  | error f => exact fail f

theorem outcome (hWork : Makes calls x y) : Makes calls (Job.outcome x) (Job.outcome y) := by
  intro j past
  have hEnd := hWork j past
  simp only [after, ending_outcome] at hEnd ⊢
  rw [hEnd]

/-- Work that makes no calls comes behind. -/
theorem bind {f : α → Job (σ × List BackendCall) β} {g : α → Job σ β} (hWork : Makes calls x y)
    (hNext : ∀ a, Makes [] (f a) (g a)) : Makes calls (x >>= f) (y >>= g) := by
  intro j past
  have hEnd := hWork j past
  simp only [after, ending_bind] at hEnd ⊢
  rw [hEnd]
  rcases ending y j with ⟨e | a, k⟩
  · rfl
  · have hLast := hNext a k (past ++ calls)
    rwa [List.append_nil] at hLast

/-- A record of the service is written before. -/
theorem logged (hWork : Makes calls x y) (level : LogLevel) (area : LogArea) (message : Text) :
    Makes calls (Job.log level area message >>= fun _ => x) (Job.log level area message >>= fun _ => y) :=
  fun j past => hWork (j.logged [⟨level, area, message⟩]) past

end Makes

end Job

namespace Http.Application

/-- The application with all its backends watched. -/
def watched (a : Application σ) : Application (σ × List BackendCall) where
  settings := a.settings
  backends f := (a.backends f).map (Backend.watched f)
  envelopeLimits := a.envelopeLimits
  issueLimits := a.issueLimits

variable {a : Application σ} {calls : List BackendCall} {t : Moment} {i : Incoming}

end Http.Application

end SnippetService
