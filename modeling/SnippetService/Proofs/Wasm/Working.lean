import SnippetService.Proofs.Wasm.Call
/-!
How the work of an engine for modules is made. Whatever module it is given, the work is put together of a few kinds of
steps: looks at what the engine keeps, lines, acts of a machine, and calls of functions, with the timer or without. So
what these steps have in common holds of every call.
-/
namespace SnippetService.Wasm

open Job

variable {α β : Type}

/-- The failure of a call that is interrupted. -/
def interruption (kind : FailureClass) : Failure := .classified kind (Trap.report .interrupted) none

/-- A failure that tells of no interruption. -/
def Calm (f : Failure) : Prop := ∀ kind, f ≠ interruption kind

theorem calm_of_isUnforeseen {f : Failure} (hUnforeseen : f.isUnforeseen = true) : Calm f := by
  rintro kind rfl
  cases hUnforeseen

theorem calm_of_hint (kind : FailureClass) (message hint : Text) : Calm (.classified kind message (some hint)) := by
  intro other hSame
  cases hSame

/-- A text that begins in another way is no report of an interruption. -/
theorem calm_of_head {kind : FailureClass} {message : Text} (hHead : message.head? ≠ some (.char 'e')) :
    Calm (.classified kind message none) := by
  intro other hSame
  cases hSame
  exact hHead (by decide)

theorem head?_ofString_append {c : Char} (text rest : String) (hFirst : text.toList.head? = some c) :
    List.head? (Text.ofString (text ++ rest)) = some (.char c) := by
  rw [Text.ofString_append, List.head?_append, Text.ofString, Text.ofChars, List.head?_map, hFirst]
  rfl

theorem calm_classify (code : Option Text) (bytes : Option Bytes) :
    Ends Calm (fun _ => True) (classify code bytes) := by
  unfold classify
  split
  · split <;> exact calm_of_hint _ _ _
  · split <;> exact calm_of_hint _ _ _
  · split
    · exact trivial
    · exact calm_of_hint _ _ _

theorem calm_callee (types : List FunctionType) (i : Import) : Ends Calm (fun _ => True) (i.callee types) := by
  unfold Import.callee
  split
  · split
    · exact trivial
    · exact calm_of_isUnforeseen rfl
  · exact calm_of_hint _ _ _

theorem calm_loadFault (fault : LoadFault) : Calm (loadFailure fault.message) := by
  refine calm_of_head ?_
  cases fault with
  | malformed => decide
  | unsound function =>
      have hMessage : (LoadFault.unsound function).message =
        "failed to compile: wasm[0]::function[" ++ (toString function ++ "]") := String.append_assoc
      rw [hMessage, head?_ofString_append _ _ rfl]
      decide

theorem calm_memory {limit : Option Nat} {t : MemoryType} {message : String}
    (hRefused : Memory.ofType limit t = .error message) : Calm (loadFailure message) := by
  unfold Memory.ofType at hRefused
  dsimp only at hRefused
  split at hRefused
  · cases hRefused
    refine calm_of_head ?_
    rw [String.append_assoc, head?_ofString_append _ _ rfl]
    decide
  · cases hRefused

theorem calm_memories {limit : Option Nat} {types : List MemoryType} {message : String}
    (hRefused : types.mapM (Memory.ofType limit) = .error message) : Calm (loadFailure message) := by
  induction types with
  | nil => cases hRefused
  | cons t rest ih =>
      rw [List.mapM_cons] at hRefused
      cases hFirst : Memory.ofType limit t with
      | error text =>
          rw [hFirst] at hRefused
          cases hRefused
          exact calm_memory hFirst
      | ok m =>
          rw [hFirst] at hRefused
          cases hRest : rest.mapM (Memory.ofType limit) with
          | error text =>
              rw [hRest] at hRefused
              cases hRefused
              exact ih hRest
          | ok ms =>
              rw [hRest] at hRefused
              cases hRefused

/-- Engines that are alike but for their time and for what has happened on them. -/
structure Alike (s t : EngineState) : Prop where
  isOpen : s.isOpen = t.isOpen
  surroundings : s.surroundings = t.surroundings
  memoryLimit : s.memoryLimit = t.memoryLimit
  lines : s.lines = t.lines
  isTimed : s.isTimed = t.isTimed

/-- Work in one phase of a call, in which the calls of functions fail by failures of one class. It sees of the engine
only what engines that are alike have in common, and it tells of no interruption itself. -/
inductive Working (kind : FailureClass) : {α : Type} → EngineJob α → Prop
  | pure {α : Type} (a : α) : Working kind (Pure.pure a)
  | bind {α β : Type} {x : EngineJob α} {f : α → EngineJob β} (hx : Working kind x) (hf : ∀ a, Working kind (f a)) :
      Working kind (x >>= f)
  | fail {α : Type} {f : Failure} (hCalm : Calm f) : Working kind (Job.fail f : EngineJob α)
  | look {α : Type} {next : EngineState → EngineJob α} (hBlind : ∀ s t, Alike s t → next s = next t)
      (hNext : ∀ s, Working kind (next s)) : Working kind (Job.host >>= next)
  | log (level : LogLevel) (area : LogArea) (message : Text) : Working kind (Job.log level area message)
  | write (f : List Text → List Text) : Working kind (Job.modifyHost fun s => { s with lines := f s.lines })
  | make (m : Machine) {act : Act Unit} (hAct : act.Composed) : Working kind (initially Trap.brief m act)
  | call (fixture : Fixture) (m : Machine) (c : Callee) (args : List Value) :
      Working kind (callFunction kind fixture m c args)
  | timed {α : Type} {job : EngineJob α} (hJob : Working kind job) : Working kind (timed job)

namespace Working

variable {kind : FailureClass}

theorem ofExcept {r : Except Failure α} (hr : Ends Calm (fun _ => True) r) : Working kind (Job.ofExcept r) := by
  cases r with
  | ok a => exact .pure a
  | error f => exact .fail hr

theorem ofUnforeseen {r : Except Failure α} (hr : Unforeseen r) : Working kind (Job.ofExcept r) :=
  ofExcept (hr.mono (fun _ => calm_of_isUnforeseen) fun _ _ => trivial)

end Working

theorem working_instantiate (l : Linked) : Working .load (instantiate l) := by
  refine .look (fun s t hAlike => by rw [hAlike.memoryLimit, hAlike.surroundings]) fun s => ?_
  dsimp only
  cases hMemories : l.program.module.memories.mapM (Memory.ofType s.memoryLimit) with
  | error message => exact .fail (calm_memories hMemories)
  | ok memories =>
      refine (Working.make _ (Act.Composed.setUp _)).bind fun m => ?_
      split
      · exact .pure _
      · exact (Working.call _ _ _ _).bind fun _ => .pure _

theorem working_invoke (x : Instance) (c : Callee) (args : List Value) : Working .evaluation (invoke x c args) :=
  (Working.call _ _ _ _).bind fun _ => .pure _

theorem working_invokePlain (x : Instance) (c : Callee) : Working .evaluation (invokePlain x c) := by
  unfold invokePlain
  dsimp only
  split
  · exact working_invoke x c []
  · exact .fail (calm_of_head (by rw [← Text.ofString_append, head?_ofString_append _ _ rfl]; decide))

theorem working_callNamed (x : Instance) (name : String) (c : Callee) (args : List Datum) :
    Working .evaluation (callNamed x name c args) := by
  unfold callNamed
  dsimp only
  split
  · exact .fail (calm_of_hint _ _ _)
  · exact (Working.ofUnforeseen (unforeseen_arguments _ _)).bind fun _ => (working_invoke x c _).bind fun _ =>
      (Working.ofUnforeseen (Ends.mapM unforeseen_formatNumber _)).bind fun _ => (Working.log _ _ _).bind fun _ =>
        (Working.ofUnforeseen (unforeseen_formatNumber _)).bind fun _ => .write _

theorem working_enter (x : Instance) (args : List Datum) (e : EntryPoint) : Working .evaluation (enter x args e) := by
  cases e with
  | named name c => exact working_callNamed x name c args
  | start c => exact (working_invokePlain x c).bind fun _ => .write _
  | main c =>
      exact (working_invokePlain x c).bind fun _ =>
        (Working.ofUnforeseen (unforeseen_formatNumber _)).bind fun _ => .write _
  | listing =>
      rw [enter]
      exact .write fun _ => _

theorem working_job (x : Instance) (c : Call) : Working .evaluation (x.job c) := by
  refine (working_enter x c.args _).timed.bind fun _ => .look (fun s t hAlike => ?_) fun _ => .pure _
  rw [hAlike.lines]

end SnippetService.Wasm
