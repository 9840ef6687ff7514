import SnippetService.Proofs.Execution.Agreement
import SnippetService.Proofs.Execution.Lifecycle
/-!
How the work of engines is composed: looks at the host, changes of the host, log records, failures, and what is made of
these. Such work writes nothing in the record of acts, and it takes nothing from the records: what it comes to, and
what it makes of the host, depends on the host alone.
-/
namespace SnippetService

variable {σ α β : Type}

namespace Job

/-- Work as engines do it. -/
inductive Composed {σ : Type} : {α : Type} → Job σ α → Prop
  | pure {α : Type} (a : α) : Composed (Pure.pure a : Job σ α)
  | bind {α β : Type} {x : Job σ α} {f : α → Job σ β} (hx : Composed x) (hf : ∀ a, Composed (f a)) :
      Composed (x >>= f)
  | fail {α : Type} (f : Failure) : Composed (Job.fail f : Job σ α)
  | outcome {α : Type} {x : Job σ α} (hx : Composed x) : Composed (Job.outcome x)
  | host : Composed (Job.host : Job σ σ)
  | setHost (h : σ) : Composed (Job.setHost h)
  | modifyHost (f : σ → σ) : Composed (Job.modifyHost f)
  | log (level : LogLevel) (area : LogArea) (message : Text) : Composed (Job.log level area message)

/-- Work that does not look at the records: on the same host it ends alike and leaves the same host. -/
def Oblivious (job : Job σ α) : Prop := Agree (· = ·) (· = ·) job job

namespace Oblivious

variable {j k : Journal σ} {x : Job σ α}

theorem end_eq (hx : Oblivious x) (hHost : j.host = k.host) : (ending x j).1 = (ending x k).1 :=
  (hx j k hHost).1.eq

theorem bind {f : α → Job σ β} (hx : Oblivious x) (hf : ∀ a, Oblivious (f a)) : Oblivious (x >>= f) := by
  refine Agree.bind hx fun a b hSame => ?_
  rw [hSame]
  exact hf b

theorem outcome (hx : Oblivious x) : Oblivious (Job.outcome x) :=
  (Agree.outcome hx).mono fun _ _ hEnds => hEnds.eq

theorem log (level : LogLevel) (area : LogArea) (message : Text) :
    Oblivious (Job.log level area message : Job σ Unit) :=
  fun _ _ hHosts => ⟨.ok rfl, hHosts⟩

theorem tell (e : EngineEvent) : Oblivious (Job.tell e : Job σ Unit) := fun _ _ hHosts => ⟨.ok rfl, hHosts⟩

end Oblivious

namespace Composed

theorem ofExcept (r : Except Failure α) : Composed (Job.ofExcept r : Job σ α) := by
  cases r with
  | ok a => exact pure a
  | error f => exact fail f

theorem quiet {x : Job σ α} (hx : x.Composed) : Quiet x := by
  induction hx with
  | pure a => exact .pure a
  | bind _ _ ihx ihf => exact ihx.bind ihf
  | fail f => exact .fail f
  | outcome _ ih => exact ih.outcome
  | host => exact .host
  | setHost h => exact .setHost h
  | modifyHost f => exact .modifyHost f
  | log level area message => exact .log level area message

theorem oblivious {x : Job σ α} (hx : x.Composed) : Oblivious x := by
  induction hx with
  | bind _ _ ihx ihf => exact ihx.bind ihf
  | outcome _ ih => exact ih.outcome
  | pure _ => exact .pure rfl
  | fail f => exact .fail f
  | log level area message => exact .log level area message
  | setHost _ => exact fun _ _ _ => ⟨.ok rfl, rfl⟩
  | host => exact fun _ _ hHost => ⟨.ok hHost, hHost⟩
  | modifyHost f => exact fun _ _ hHost => ⟨.ok rfl, congrArg f hHost⟩

end Composed

end Job

namespace Engine

/-- An engine whose work is composed. -/
structure Composed (e : Engine σ) : Prop where
  execute : ∀ code input, (e.execute code input).Composed
  dispose : e.dispose.Composed

variable {e : Engine σ}

theorem Composed.quiet (hEngine : e.Composed) : e.Quiet where
  execute code input := (hEngine.execute code input).quiet
  dispose := hEngine.dispose.quiet

end Engine

end SnippetService
