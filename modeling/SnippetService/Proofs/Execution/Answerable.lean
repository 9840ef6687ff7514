import SnippetService.Proofs.Execution.Attempt
import SnippetService.Proofs.Text.Point
/-!
Work whose failures are of a kind, and that gives values of a kind. Work that can always be answered may fail, but never
by a shutdown; an executor whose parts are such work answers every call with a result.
-/
namespace SnippetService

variable {σ α β : Type}

/-- Whether a failure can be told in characters alone, without a hint. -/
def Failure.isUnhinted : Failure → Bool
  | classified _ message hint => message.isPlain && hint.isNone
  | unexpected _ text => text.isPlain
  | shutdown _ _ => false

/-- Whether a failure can be answered in characters. -/
def Failure.isTellable : Failure → Bool
  | classified _ message hint => message.isPlain && hint.all Text.isPlain
  | unexpected _ text => text.isPlain
  | shutdown _ _ => false

/-- Whether a failure is of no class that was foreseen, and can be told in characters. -/
def Failure.isUnforeseen : Failure → Bool
  | unexpected _ text => text.isPlain
  | _ => false

theorem Failure.isUnhinted_of_isUnforeseen {f : Failure} (hUnforeseen : f.isUnforeseen = true) :
    f.isUnhinted = true := by
  cases f with
  | unexpected kind text => exact hUnforeseen
  | _ => cases hUnforeseen

theorem Failure.isTellable_of_isUnhinted {f : Failure} (hUnhinted : f.isUnhinted = true) : f.isTellable = true := by
  cases f with
  | classified c message hint =>
      obtain ⟨hPlain, hNone⟩ := Bool.and_eq_true_iff.mp hUnhinted
      obtain rfl := Option.isNone_iff_eq_none.mp hNone
      exact Bool.and_eq_true_iff.mpr ⟨hPlain, rfl⟩
  | _ => exact hUnhinted

theorem Failure.isAnswerable_of_isTellable {f : Failure} (hTellable : f.isTellable = true) :
    f.isAnswerable = true := by
  cases f with
  | shutdown name text => cases hTellable
  | _ => rfl

/-- The hint of a failure. -/
def Failure.hint? : Failure → Option Text
  | classified _ _ hint => hint
  | _ => none

theorem Failure.hint?_of_isUnhinted {f : Failure} (hUnhinted : f.isUnhinted = true) : f.hint? = none := by
  cases f with
  | classified c message hint => exact Option.isNone_iff_eq_none.mp (Bool.and_eq_true_iff.mp hUnhinted).2
  | _ => rfl

/-- A value that meets a condition, or a failure that meets another. -/
def Ends (F : Failure → Prop) (P : α → Prop) : Except Failure α → Prop
  | .ok a => P a
  | .error f => F f

/-- A value that meets a condition, or a failure that can be answered. -/
def Meets (P : α → Prop) : Except Failure α → Prop
  | .ok a => P a
  | .error f => f.isAnswerable = true

/-- Any value, or a failure that can be answered. -/
abbrev Answerable (r : Except Failure α) : Prop := Meets (fun _ => True) r

/-- Any value, or a failure of no class. -/
abbrev Unforeseen (r : Except Failure α) : Prop := Ends (fun f => f.isUnforeseen = true) (fun _ => True) r

namespace Ends

variable {F : Failure → Prop} {P : α → Prop} {Q : β → Prop}

theorem bind {r : Except Failure α} {next : α → Except Failure β} (hFirst : Ends F P r)
    (hNext : ∀ a, P a → Ends F Q (next a)) : Ends F Q (r >>= next) := by
  cases r with
  | ok a => exact hNext a hFirst
  | error f => exact hFirst

theorem mono {G : Failure → Prop} {R : α → Prop} {r : Except Failure α} (hFirst : Ends F P r)
    (hFailure : ∀ f, F f → G f) (hValue : ∀ a, P a → R a) : Ends G R r := by
  cases r with
  | ok a => exact hValue a hFirst
  | error f => exact hFailure f hFirst

theorem map {r : Except Failure α} (hFirst : Ends F P r) {g : α → β} (hMap : ∀ a, P a → Q (g a)) :
    Ends F Q (r.map g) := by
  cases r with
  | ok a => exact hMap a hFirst
  | error f => exact hFirst

theorem mapM {g : α → Except Failure β} (hEach : ∀ a, Ends F (fun _ => True) (g a)) (as : List α) :
    Ends F (fun _ => True) (as.mapM g) := by
  induction as with
  | nil => exact trivial
  | cons a rest ih =>
      rw [List.mapM_cons]
      exact (hEach a).bind fun _ _ => ih.bind fun _ _ => trivial

end Ends

namespace Meets

variable {P : α → Prop} {Q : β → Prop}

theorem bind {r : Except Failure α} {next : α → Except Failure β} (hFirst : Meets P r)
    (hNext : ∀ a, P a → Meets Q (next a)) : Meets Q (r >>= next) :=
  Ends.bind hFirst hNext

theorem map {r : Except Failure α} (hFirst : Meets P r) {g : α → β} (hMap : ∀ a, P a → Q (g a)) :
    Meets Q (r.map g) :=
  Ends.map hFirst hMap

end Meets

namespace Job

variable {F : Failure → Prop} {P : α → Prop} {Q : β → Prop}

/-- Work that gives a value that meets a condition, or fails in a way that meets another. -/
def EndsIn (F : Failure → Prop) (P : α → Prop) (job : Job σ α) : Prop := ∀ j, Ends F P (ending job j).1

/-- Work that gives a value that meets a condition, or fails in a way that can be answered. -/
def Yields (P : α → Prop) (job : Job σ α) : Prop := ∀ j, Meets P (ending job j).1

/-- Work that fails only in ways that can be answered. -/
abbrev IsAnswerable (job : Job σ α) : Prop := Yields (fun _ => True) job

namespace EndsIn

theorem pure {a : α} (hValue : P a) : EndsIn F P (Pure.pure a : Job σ α) := fun _ => hValue

theorem mono {G : Failure → Prop} {R : α → Prop} {x : Job σ α} (hx : EndsIn F P x) (hFailure : ∀ f, F f → G f)
    (hValue : ∀ a, P a → R a) : EndsIn G R x :=
  fun j => (hx j).mono hFailure hValue

theorem bind {x : Job σ α} {f : α → Job σ β} (hx : EndsIn F P x) (hf : ∀ a, P a → EndsIn F Q (f a)) :
    EndsIn F Q (x >>= f) := by
  intro j
  have hFirst := hx j
  rw [ending_bind]
  rcases hEnd : ending x j with ⟨r, k⟩
  rw [hEnd] at hFirst
  cases r with
  | ok a => exact hf a hFirst k
  | error e => exact hFirst

theorem fail {f : Failure} (hFailure : F f) : EndsIn F P (Job.fail f : Job σ α) := fun _ => hFailure

theorem ofExcept {r : Except Failure α} (hr : Ends F P r) : EndsIn F P (Job.ofExcept r : Job σ α) := by
  intro j
  rwa [ending_ofExcept]

theorem log (level : LogLevel) (area : LogArea) (message : Text) :
    EndsIn F (fun _ => True) (Job.log level area message : Job σ Unit) := fun _ => trivial

theorem host : EndsIn F (fun _ => True) (Job.host : Job σ σ) := fun _ => trivial

theorem modifyHost (f : σ → σ) : EndsIn F (fun _ => True) (Job.modifyHost f) := fun _ => trivial

theorem tell (e : EngineEvent) : EndsIn F (fun _ => True) (Job.tell e : Job σ Unit) := fun _ => trivial

end EndsIn

namespace Yields

theorem pure {a : α} (hValue : P a) : Yields P (Pure.pure a : Job σ α) := fun _ => hValue

theorem bind {x : Job σ α} {f : α → Job σ β} (hx : Yields P x) (hf : ∀ a, P a → Yields Q (f a)) :
    Yields Q (x >>= f) :=
  EndsIn.bind hx hf

theorem fail {f : Failure} (hAnswerable : f.isAnswerable = true) : Yields P (Job.fail f : Job σ α) :=
  fun _ => hAnswerable

theorem log (level : LogLevel) (area : LogArea) (message : Text) :
    Yields (fun _ => True) (Job.log level area message : Job σ Unit) := fun _ => trivial

theorem tell (e : EngineEvent) : Yields (fun _ => True) (Job.tell e : Job σ Unit) := fun _ => trivial

theorem host : Yields (fun _ => True) (Job.host : Job σ σ) := fun _ => trivial

theorem modifyHost (f : σ → σ) : Yields (fun _ => True) (Job.modifyHost f) := fun _ => trivial

end Yields

end Job

namespace Executor

open Job

/-- What an end that can be answered is answered with. -/
def resultOf (x : Executor σ) : Except Failure RunResult → RunResult
  | .ok r => r
  | .error f =>
    .failure x.runtime (orElseText f.text defaultFailure)
      (match f with
      | .classified _ _ hint => hint
      | _ => none)

theorem answerOf_eq (x : Executor σ) {r : Except Failure RunResult}
    (hr : Answerable r) : x.answerOf r = .ok (x.resultOf r) := by
  cases r with
  | ok r => rfl
  | error f =>
      cases f with
      | classified c message hint => rfl
      | unexpected kind text => rfl
      | shutdown name text => exact absurd hr (by simp [Meets, Failure.isAnswerable])

theorem disposalEnd_eq {r : Except Failure Unit} (hr : Answerable r) :
    disposalEnd r = .ok () := by
  cases r with
  | ok u => rfl
  | error f => exact if_pos hr

/-- A call that runs on an engine is answered with what the run comes to, and with the time that the clock
shows. -/
theorem ending_execute_built {x : Executor σ} {elapsed : Nat} {code : Option Text}
    {options : Options} {j k l : Journal σ} {e : Engine σ}
    (hInput : x.hasInput code options = true)
    (hNone : ending (x.preflight code options) j = (.ok none, k))
    (hBuild : ending x.build (k.noted .build) = (.ok e, l))
    (hRun : (x.run e code options).IsAnswerable) (hDispose : e.dispose.IsAnswerable) :
    (ending (x.execute elapsed code options) j).1 =
      .ok ((x.resultOf (ending (x.run e code options) l).1).timed elapsed) := by
  have hRelease := x.ending_release e (x.ran e code options l)
  rw [disposalEnd_eq (hDispose _)] at hRelease
  rw [ending_execute_attempted hInput hNone, ending_attempt_built hBuild, hRelease,
    answerOf_eq x (hRun l)]
  rfl

/-- A call whose engine cannot be had is answered with the failure. -/
theorem ending_execute_unbuilt {x : Executor σ} {elapsed : Nat} {code : Option Text}
    {options : Options} {j k l : Journal σ} {f : Failure}
    (hInput : x.hasInput code options = true)
    (hNone : ending (x.preflight code options) j = (.ok none, k))
    (hBuild : ending x.build (k.noted .build) = (.error f, l)) (hAnswerable : f.isAnswerable = true) :
    (ending (x.execute elapsed code options) j).1 = .ok ((x.resultOf (.error f)).timed elapsed) := by
  have hAnswer := x.answerOf_eq (r := .error f) hAnswerable
  rw [answerOf] at hAnswer
  rw [ending_execute_attempted hInput hNone, ending_attempt_unbuilt hBuild, hAnswer]
  rfl

end Executor

end SnippetService
