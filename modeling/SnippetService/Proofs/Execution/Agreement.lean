import SnippetService.Proofs.Execution.Job
/-!
Two pieces of work that agree. They may work on different hosts; as long as these are related, the two end alike and
leave hosts that are related again. The records of either make no difference. Pieces that agree may be put together.
-/
namespace SnippetService

variable {σ ρ α β γ δ : Type}

/-- Ends that agree: values that are related, or one and the same failure. -/
inductive Agrees (R : α → β → Prop) : Except Failure α → Except Failure β → Prop where
  | ok {a : α} {b : β} (hValues : R a b) : Agrees R (.ok a) (.ok b)
  | error (f : Failure) : Agrees R (.error f) (.error f)

namespace Agrees

variable {R : α → β → Prop} {S : γ → δ → Prop}

theorem refl (r : Except Failure α) : Agrees (· = ·) r r := by
  cases r with
  | ok a => exact .ok rfl
  | error f => exact .error f

theorem eq {r s : Except Failure α} (hAgrees : Agrees (· = ·) r s) : r = s := by
  cases hAgrees with
  | ok hValues => rw [hValues]
  | error f => rfl

theorem map {r : Except Failure α} {s : Except Failure β} {f : α → γ} {g : β → δ} (hFirst : Agrees R r s)
    (hMap : ∀ a b, R a b → S (f a) (g b)) : Agrees S (r.map f) (s.map g) := by
  cases hFirst with
  | ok hValues => exact .ok (hMap _ _ hValues)
  | error f => exact .error f

theorem mono {T : α → β → Prop} {r : Except Failure α} {s : Except Failure β} (hEnds : Agrees R r s)
    (hWeaker : ∀ a b, R a b → T a b) : Agrees T r s := by
  cases hEnds with
  | ok hValues => exact .ok (hWeaker _ _ hValues)
  | error f => exact .error f

/-- Ends agree up to a view exactly if they are the same in that view. -/
theorem view_iff {view : α → γ} {r s : Except Failure α} :
    Agrees (fun a b => view a = view b) r s ↔ r.map view = s.map view := by
  constructor
  · intro hAgrees
    exact (hAgrees.map (S := (· = ·)) fun _ _ hSame => hSame).eq
  · intro hSame
    cases r with
    | ok a =>
        cases s with
        | ok b => exact .ok (Except.ok.inj hSame)
        | error g => cases hSame
    | error f =>
        cases s with
        | ok b => cases hSame
        | error g =>
            cases hSame
            exact .error f

end Agrees

namespace Job

/-- Work on two hosts that agrees: where the hosts are related, the ends agree and the hosts stay related. -/
def Agree (I : σ → ρ → Prop) (R : α → β → Prop) (x : Job σ α) (y : Job ρ β) : Prop :=
  ∀ (j : Journal σ) (k : Journal ρ), I j.host k.host →
    Agrees R (ending x j).1 (ending y k).1 ∧ I (after x j).host (after y k).host

namespace Agree

variable {I : σ → ρ → Prop} {R : α → β → Prop} {S : γ → δ → Prop}

theorem pure {a : α} {b : β} (hValues : R a b) :
    Agree I R (Pure.pure a : Job σ α) (Pure.pure b : Job ρ β) :=
  fun _ _ hHosts => ⟨.ok hValues, hHosts⟩

theorem bind {x : Job σ α} {y : Job ρ β} {f : α → Job σ γ} {g : β → Job ρ δ} (hWork : Agree I R x y)
    (hNext : ∀ a b, R a b → Agree I S (f a) (g b)) : Agree I S (x >>= f) (y >>= g) := by
  intro j k hHosts
  obtain ⟨hEnds, hAfter⟩ := hWork j k hHosts
  simp only [after, ending_bind] at hAfter ⊢
  rcases hFirst : ending x j with ⟨r, l⟩
  rcases hSecond : ending y k with ⟨s, m⟩
  rw [hFirst, hSecond] at hEnds hAfter
  dsimp only at hEnds hAfter
  cases hEnds with
  | ok hValues => exact hNext _ _ hValues l m hAfter
  | error e => exact ⟨.error e, hAfter⟩

theorem mono {T : α → β → Prop} {x : Job σ α} {y : Job ρ β} (hWork : Agree I R x y)
    (hWeaker : ∀ a b, R a b → T a b) : Agree I T x y := by
  intro j k hHosts
  obtain ⟨hEnds, hAfter⟩ := hWork j k hHosts
  exact ⟨hEnds.mono hWeaker, hAfter⟩

theorem fail (f : Failure) : Agree I R (Job.fail f : Job σ α) (Job.fail f : Job ρ β) :=
  fun _ _ hHosts => ⟨.error f, hHosts⟩

theorem ofExcept {r : Except Failure α} {s : Except Failure β} (hEnds : Agrees R r s) :
    Agree I R (Job.ofExcept r : Job σ α) (Job.ofExcept s : Job ρ β) := by
  cases hEnds with
  | ok hValues => exact pure hValues
  | error f => exact fail f

theorem outcome {x : Job σ α} {y : Job ρ β} (hWork : Agree I R x y) :
    Agree I (Agrees R) (Job.outcome x) (Job.outcome y) := by
  intro j k hHosts
  obtain ⟨hEnds, hAfter⟩ := hWork j k hHosts
  rw [after, after, ending_outcome, ending_outcome]
  exact ⟨.ok hEnds, hAfter⟩

/-- Whatever is logged makes no difference. -/
theorem log (levelX levelY : LogLevel) (areaX areaY : LogArea) (messageX messageY : Text) :
    Agree I (fun _ _ => True) (Job.log levelX areaX messageX : Job σ Unit)
      (Job.log levelY areaY messageY : Job ρ Unit) :=
  fun _ _ hHosts => ⟨.ok trivial, hHosts⟩

theorem tell (first second : EngineEvent) :
    Agree I (fun _ _ => True) (Job.tell first : Job σ Unit) (Job.tell second : Job ρ Unit) :=
  fun _ _ hHosts => ⟨.ok trivial, hHosts⟩

/-- What is seen of the hosts is related as they are. -/
theorem host : Agree I I (Job.host : Job σ σ) (Job.host : Job ρ ρ) := fun _ _ hHosts => ⟨.ok hHosts, hHosts⟩

theorem setHost {s : σ} {t : ρ} (hHosts : I s t) : Agree I (fun _ _ => True) (Job.setHost s) (Job.setHost t) :=
  fun _ _ _ => ⟨.ok trivial, hHosts⟩

theorem modifyHost {f : σ → σ} {g : ρ → ρ} (hChange : ∀ s t, I s t → I (f s) (g t)) :
    Agree I (fun _ _ => True) (Job.modifyHost f) (Job.modifyHost g) :=
  fun _ _ hHosts => ⟨.ok trivial, hChange _ _ hHosts⟩

end Agree

end Job

end SnippetService
