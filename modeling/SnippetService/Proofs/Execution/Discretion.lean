import Mathlib.Data.List.DropRight
import Mathlib.Data.Option.Basic
import SnippetService.Proofs.Execution.Agreement
import SnippetService.Proofs.Sandbox.Session
import SnippetService.Sandbox.Prepared
import SnippetService.Service.Backend
/-!
What the records tell of a code. Two pieces of work log alike if they agree and write the same records, but for the
times that these tell. An executor is discreet about two codes if its parts log alike with either of them, and an
answer that it gives without an engine differs in the output at most; then a whole call with one code logs as with the
other. The executor of remote code is discreet wherever its sandbox takes no notice of the code.
-/
namespace SnippetService

open Job

variable {σ ρ τ υ κ α β γ δ : Type}

namespace LogRecord

/-- What stands before a time at the end of a message. -/
def timeMark : Text := "time_ms="

/-- Whether a code point is a digit of a time. -/
def isTimeDigit (p : Point) : Bool := p.char?.any Char.isDigit

/-- A message without the digits of a time that it ends with. -/
def withoutTime (message : Text) : Text :=
  let before := message.rdropWhile isTimeDigit
  if timeMark.isSuffixOf before then before else message

/-- A record but for the time that it tells. -/
def untimed (r : LogRecord) : LogRecord := { r with message := withoutTime r.message }

end LogRecord

/-- Records that are the same, one by one, but for the times that they tell. -/
def SameRecords (first second : List LogRecord) : Prop :=
  first.map LogRecord.untimed = second.map LogRecord.untimed

namespace SameRecords

theorem append {first second third fourth : List LogRecord} (hBefore : SameRecords first second)
    (hAfter : SameRecords third fourth) : SameRecords (first ++ third) (second ++ fourth) := by
  rw [SameRecords, List.map_append, List.map_append, hBefore, hAfter]

/-- The same records show at any level. -/
theorem atLevel {first second : List LogRecord} (hSame : SameRecords first second) (rank : Int) :
    SameRecords (LogRecord.atLevel rank first) (LogRecord.atLevel rank second) := by
  have hShown (records : List LogRecord) : (LogRecord.atLevel rank records).map LogRecord.untimed =
      LogRecord.atLevel rank (records.map LogRecord.untimed) := by
    rw [LogRecord.atLevel, LogRecord.atLevel, List.filter_map]
    rfl
  rw [SameRecords, hShown, hShown, hSame]

end SameRecords

/-- Two journals that have been continued with the same records. -/
def ContinuedAlike (j j' : Journal σ) (k k' : Journal ρ) : Prop :=
  ∃ first second, j'.logs = j.logs ++ first ∧ k'.logs = k.logs ++ second ∧ SameRecords first second

namespace ContinuedAlike

variable {j j' j'' : Journal σ} {k k' k'' : Journal ρ}

/-- Nothing has been written in either of them. -/
theorem unwritten (hFirst : j'.logs = j.logs) (hSecond : k'.logs = k.logs) : ContinuedAlike j j' k k' :=
  ⟨[], [], by rw [hFirst, List.append_nil], by rw [hSecond, List.append_nil], rfl⟩

theorem trans (hFirst : ContinuedAlike j j' k k') (hSecond : ContinuedAlike j' j'' k' k'') :
    ContinuedAlike j j'' k k'' := by
  obtain ⟨first, second, hJ, hK, hBefore⟩ := hFirst
  obtain ⟨third, fourth, hJ', hK', hAfter⟩ := hSecond
  refine ⟨first ++ third, second ++ fourth, ?_, ?_, hBefore.append hAfter⟩
  · rw [hJ', hJ, List.append_assoc]
  · rw [hK', hK, List.append_assoc]

end ContinuedAlike

namespace Job

/-- Work on two hosts that agrees and is recorded alike: where the hosts are related, the ends agree, the hosts stay
related, and the same records are written. -/
def LogAlike (I : σ → ρ → Prop) (R : α → β → Prop) (x : Job σ α) (y : Job ρ β) : Prop :=
  ∀ (j : Journal σ) (k : Journal ρ), I j.host k.host →
    (Agrees R (ending x j).1 (ending y k).1 ∧ I (after x j).host (after y k).host) ∧
      ContinuedAlike j (after x j) k (after y k)

namespace LogAlike

variable {I : σ → ρ → Prop} {R : α → β → Prop} {S : γ → δ → Prop} {x : Job σ α} {y : Job ρ β}

/-- Work that agrees and writes no records. -/
theorem of_agree (hWork : Agree I R x y) (hFirst : ∀ j, (after x j).logs = j.logs)
    (hSecond : ∀ k, (after y k).logs = k.logs) : LogAlike I R x y :=
  fun j k hHosts => ⟨hWork j k hHosts, .unwritten (hFirst j) (hSecond k)⟩

theorem pure {a : α} {b : β} (hValues : R a b) :
    LogAlike I R (Pure.pure a : Job σ α) (Pure.pure b : Job ρ β) :=
  of_agree (.pure hValues) (fun _ => rfl) fun _ => rfl

theorem fail (f : Failure) : LogAlike I R (Job.fail f : Job σ α) (Job.fail f : Job ρ β) :=
  of_agree (.fail f) (fun _ => rfl) fun _ => rfl

theorem ofExcept {r : Except Failure α} {s : Except Failure β} (hEnds : Agrees R r s) :
    LogAlike I R (Job.ofExcept r : Job σ α) (Job.ofExcept s : Job ρ β) := by
  cases hEnds with
  | ok hValues => exact pure hValues
  | error f => exact fail f

theorem tell (first second : EngineEvent) :
    LogAlike I (fun _ _ => True) (Job.tell first : Job σ Unit) (Job.tell second : Job ρ Unit) :=
  of_agree (.tell first second) (fun _ => rfl) fun _ => rfl

theorem host : LogAlike I I (Job.host : Job σ σ) (Job.host : Job ρ ρ) :=
  of_agree .host (fun _ => rfl) fun _ => rfl

theorem setHost {s : σ} {t : ρ} (hHosts : I s t) :
    LogAlike I (fun _ _ => True) (Job.setHost s) (Job.setHost t) :=
  of_agree (.setHost hHosts) (fun _ => rfl) fun _ => rfl

theorem modifyHost {f : σ → σ} {g : ρ → ρ} (hChange : ∀ s t, I s t → I (f s) (g t)) :
    LogAlike I (fun _ _ => True) (Job.modifyHost f) (Job.modifyHost g) :=
  of_agree (.modifyHost hChange) (fun _ => rfl) fun _ => rfl

/-- One record is written by each, and both are the same but for a time. -/
theorem log {level : LogLevel} {area : LogArea} {message other : Text}
    (hSame : LogRecord.untimed ⟨level, area, message⟩ = LogRecord.untimed ⟨level, area, other⟩) :
    LogAlike I (· = ·) (Job.log level area message : Job σ Unit) (Job.log level area other : Job ρ Unit) := by
  intro j k hHosts
  refine ⟨⟨.ok rfl, hHosts⟩, _, _, rfl, rfl, ?_⟩
  rw [SameRecords, List.map_singleton, List.map_singleton, hSame]

theorem bind {f : α → Job σ γ} {g : β → Job ρ δ} (hWork : LogAlike I R x y)
    (hNext : ∀ a b, R a b → LogAlike I S (f a) (g b)) : LogAlike I S (x >>= f) (y >>= g) := by
  intro j k hHosts
  obtain ⟨⟨hEnds, hAfter⟩, hRecords⟩ := hWork j k hHosts
  simp only [after, ending_bind] at hAfter hRecords ⊢
  rcases hFirst : ending x j with ⟨r, l⟩
  rcases hSecond : ending y k with ⟨s, m⟩
  rw [hFirst, hSecond] at hEnds hAfter hRecords
  dsimp only at hEnds hAfter hRecords
  cases hEnds with
  | error e => exact ⟨⟨.error e, hAfter⟩, hRecords⟩
  | @ok a b hValues =>
      obtain ⟨hLast, hMore⟩ := hNext a b hValues l m hAfter
      exact ⟨hLast, hRecords.trans hMore⟩

theorem outcome (hWork : LogAlike I R x y) : LogAlike I (Agrees R) (Job.outcome x) (Job.outcome y) := by
  intro j k hHosts
  obtain ⟨⟨hEnds, hAfter⟩, hRecords⟩ := hWork j k hHosts
  rw [after, after, ending_outcome, ending_outcome]
  exact ⟨⟨.ok hEnds, hAfter⟩, hRecords⟩

/-- Work on other hosts, which are made of these and from which these are restored. -/
theorem within {J : τ → υ → Prop} {x : Job τ α} {y : Job υ β} (hWork : LogAlike J R x y) {enterX : σ → τ}
    {enterY : ρ → υ} {leaveX : σ → τ → σ} {leaveY : ρ → υ → ρ} (hEnter : ∀ s t, I s t → J (enterX s) (enterY t))
    (hLeave : ∀ s t u v, I s t → J u v → I (leaveX s u) (leaveY t v)) :
    LogAlike I R (Job.within enterX leaveX x) (Job.within enterY leaveY y) := by
  intro j k hHosts
  obtain ⟨⟨hEnds, hAfter⟩, hRecords⟩ :=
    hWork (j.hosting (enterX j.host)) (k.hosting (enterY k.host)) (hEnter _ _ hHosts)
  rw [after, after, ending_within, ending_within]
  exact ⟨⟨hEnds, hLeave _ _ _ _ hHosts hAfter⟩, hRecords⟩

end LogAlike

end Job

/-- Results that differ in the output and the time at most. Either both outputs are made of characters or neither is,
and either both tell a time or neither does. -/
structure RunResult.Alike (r s : RunResult) : Prop where
  success : r.success = s.success
  output : r.output.map Text.isPlain = s.output.map Text.isPlain
  error : r.error = s.error
  runtime : r.runtime = s.runtime
  elapsed : r.elapsed.isSome = s.elapsed.isSome
  hint : r.hint = s.hint
  results : r.results = s.results

namespace RunResult.Alike

theorem refl (r : RunResult) : r.Alike r := ⟨rfl, rfl, rfl, rfl, rfl, rfl, rfl⟩

theorem timed {r s : RunResult} (hAlike : r.Alike s) (elapsed other : Nat) :
    (r.timed elapsed).Alike (s.timed other) :=
  ⟨hAlike.success, hAlike.output, hAlike.error, hAlike.runtime, rfl, hAlike.hint, hAlike.results⟩

end RunResult.Alike

namespace Executor

/-- An executor that has the same to record of two codes. Its engines agree on them, so only an answer without an engine
may tell one from the other, and this by its output alone. -/
structure Discreet (x : Executor σ) (I : σ → σ → Prop) (first second : Option Text) (options : Options) : Prop where
  hasInput : x.hasInput first options = x.hasInput second options
  preflight : LogAlike I (Option.Rel RunResult.Alike) (x.preflight first options) (x.preflight second options)
  build : LogAlike I
    (fun e f => LogAlike I (· = ·) (x.run e first options) (x.run f second options) ∧
      LogAlike I (· = ·) e.dispose f.dispose) x.build x.build

variable {I : σ → σ → Prop}

theorem logAlike_settle (x : Executor σ) (f : Failure) : LogAlike I (· = ·) (x.settle f) (x.settle f) := by
  cases f with
  | classified kind message hint => exact (LogAlike.log rfl).bind fun _ _ _ => .pure rfl
  | unexpected kind text => exact (LogAlike.log rfl).bind fun _ _ _ => .pure rfl
  | shutdown kind text => exact .pure rfl

theorem logAlike_settled (x : Executor σ) (ended : Except Failure RunResult) :
    LogAlike I (· = ·) (x.settled ended) (x.settled ended) := by
  cases ended with
  | ok r => exact .pure rfl
  | error f => exact x.logAlike_settle f

theorem logAlike_release (x : Executor σ) {e f : Engine σ} (hDispose : LogAlike I (· = ·) e.dispose f.dispose) :
    LogAlike I (· = ·) (x.release e) (x.release f) := by
  refine (LogAlike.tell _ _).bind fun _ _ _ => hDispose.outcome.bind fun ended _ hEnds => ?_
  rw [← hEnds.eq]
  cases ended with
  | ok u => exact .pure rfl
  | error f =>
      dsimp only
      split
      · exact .log rfl
      · exact .fail f

namespace Discreet

variable {x : Executor σ} {first second : Option Text} {options : Options}

theorem attempt (hDiscreet : x.Discreet I first second options) :
    LogAlike I (· = ·) (x.attempt first options) (x.attempt second options) := by
  refine (LogAlike.tell _ _).bind fun _ _ _ => hDiscreet.build.outcome.bind fun _ _ hBuilt => ?_
  cases hBuilt with
  | error f => exact x.logAlike_settle f
  | ok hEngine =>
      obtain ⟨hRun, hDispose⟩ := hEngine
      refine hRun.outcome.bind fun ended _ hEnds => ?_
      rw [← hEnds.eq]
      exact (x.logAlike_settled ended).bind fun _ _ hSame =>
        (x.logAlike_release hDispose).bind fun _ _ _ => .pure hSame

/-- A call with one code logs as with the other, and its result differs in the output and the time at most. -/
theorem execute (hDiscreet : x.Discreet I first second options) (elapsed other : Nat) :
    LogAlike I RunResult.Alike (x.execute elapsed first options) (x.execute other second options) := by
  unfold Executor.execute
  rw [hDiscreet.hasInput]
  split
  · exact .pure (.refl _)
  · refine hDiscreet.preflight.bind fun _ _ hEarly => ?_
    cases hEarly with
    | some hAlike => exact .pure (hAlike.timed elapsed other)
    | none =>
        refine hDiscreet.attempt.bind fun ended _ hSame => ?_
        subst hSame
        exact (LogAlike.ofExcept (Agrees.refl ended)).bind fun r _ hSame => by
          subst hSame
          exact .pure ((RunResult.Alike.refl r).timed elapsed other)

end Discreet

end Executor

namespace Sandbox

/-- Sandboxes that have been used alike, but for the codes that were submitted. -/
structure Usage.Alike (w v : Usage) : Prop where
  created : w.created = v.created
  killed : w.killed = v.killed

/-- Sessions on related worlds, both held or both not. -/
structure Session.Alike (I : κ → κ → Prop) (s t : Session κ) : Prop where
  world : I s.world t.world
  isHeld : s.isHeld = t.isHeld

variable {I : κ → κ → Prop} {p : Provider κ}

end Sandbox

end SnippetService
