import Mathlib.Tactic.Simproc.ExistsAndEq
import SnippetService.Snippet.Interpreter
/-!
What the harness comes to in any interpreter. A value is shown in one of four ways, each tried where those before it
have nothing, and only what is thrown by the last of them leaves the harness. How the harness goes on depends on what
the evaluation of the snippet itself has come to, and on nothing else.
-/
namespace SnippetService.Snippet

variable {ρ V α β : Type}

namespace Work

variable {work : Work ρ V α} {next : α → Work ρ V β} {handler : V → Work ρ V α} {r r' : ρ}

theorem bind_ok {a : α} (hWork : work r = .ok a r') : (work >>= next) r = next a r' := by
  change EStateM.bind work next r = _
  rw [EStateM.bind, hWork]

theorem bind_error {h : Halt V} (hWork : work r = .error h r') : (work >>= next) r = .error h r' := by
  change EStateM.bind work next r = _
  rw [EStateM.bind, hWork]

theorem catching_ok {a : α} (hWork : work r = .ok a r') : work.catching handler r = .ok a r' := by
  rw [catching, hWork]

theorem catching_thrown {v : V} (hWork : work r = .error (.thrown v) r') : work.catching handler r = handler v r' := by
  rw [catching, hWork]

theorem catching_stopped {f : Failure} (hWork : work r = .error (.stopped f) r') :
    work.catching handler r = .error (.stopped f) r' := by
  rw [catching, hWork]

/-- Caught work comes to a value by itself, or the handler makes one of what it throws. -/
theorem catching_eq_ok_iff {a : α} : work.catching handler r = .ok a r' ↔
    work r = .ok a r' ∨ ∃ v s, work r = .error (.thrown v) s ∧ handler v s = .ok a r' := by
  unfold catching
  rcases work r with ⟨b, s⟩ | ⟨v | f, s⟩ <;> simp

/-- What caught work throws is thrown by its handler. -/
theorem catching_eq_thrown_iff {e : V} : work.catching handler r = .error (.thrown e) r' ↔
    ∃ v s, work r = .error (.thrown v) s ∧ handler v s = .error (.thrown e) r' := by
  unfold catching
  rcases work r with ⟨b, s⟩ | ⟨v | f, s⟩ <;> simp

end Work

namespace Interpreter

variable {I : Interpreter ρ V} {code : Text} {reader stringify v w : V} {r r' start : ρ}

/-- A value without a JSON text. It is no object, or nothing is written for it, or writing it throws. -/
inductive Unwritten (I : Interpreter ρ V) (stringify v : V) (r : ρ) : ρ → Prop where
  | primitive (hKind : I.typeName r v ≠ "object") : Unwritten I stringify v r r
  | empty {w : V} {r' : ρ} (hKind : I.typeName r v = "object")
      (hCall : I.call stringify I.undefined [v, I.null, I.ofNat 2] r = .ok w r') (hNone : I.isNullish w = true) :
      Unwritten I stringify v r r'
  | threw {e : V} {r' : ρ} (hKind : I.typeName r v = "object")
      (hCall : I.call stringify I.undefined [v, I.null, I.ofNat 2] r = .error (.thrown e) r') :
      Unwritten I stringify v r r'

/-- How a value is shown. -/
inductive Renders (I : Interpreter ρ V) (stringify v : V) (r : ρ) : V → ρ → Prop where
  | nothing (hNone : I.isNullish v = true) : Renders I stringify v r I.null r
  | json {w : V} {r' : ρ} (hSome : I.isNullish v = false) (hKind : I.typeName r v = "object")
      (hCall : I.call stringify I.undefined [v, I.null, I.ofNat 2] r = .ok w r') (hText : I.isNullish w = false) :
      Renders I stringify v r w r'
  | text {w : V} {s r' : ρ} (hSome : I.isNullish v = false) (hUnwritten : I.Unwritten stringify v r s)
      (hText : I.asText (pure v) s = .ok w r') : Renders I stringify v r w r'
  /-- The last way is taken only where the text of the value throws. -/
  | byClass {w e : V} {s u r' : ρ} (hSome : I.isNullish v = false) (hUnwritten : I.Unwritten stringify v r s)
      (hThrown : I.asText (pure v) s = .error (.thrown e) u) (hClass : I.classText v u = .ok w r') :
      Renders I stringify v r w r'

/-- A value that cannot be shown. It has no JSON text, its text throws, and then the tag of its class throws too. -/
def Unshown (I : Interpreter ρ V) (stringify v : V) (r : ρ) : Prop :=
  I.isNullish v = false ∧ ∃ s d u e r', I.Unwritten stringify v r s ∧ I.asText (pure v) s = .error (.thrown d) u ∧
    I.classText v u = .error (.thrown e) r'

/-- The work on a value that has no JSON text. -/
def plainText (I : Interpreter ρ V) (v : V) : Work ρ V V := (I.asText (pure v)).catching fun _ => I.classText v

/-- An object is written by the function for this, and what that throws is caught. -/
theorem jsonText_object (hKind : I.typeName r v = "object") : I.jsonText stringify v r =
    (I.call stringify I.undefined [v, I.null, I.ofNat 2]).catching (fun _ => return I.undefined) r := by
  change (if I.typeName r v = "object" then _ else _ : Work ρ V V) r = _
  rw [if_pos hKind]

theorem jsonText_primitive (hKind : I.typeName r v ≠ "object") : I.jsonText stringify v r = .ok I.undefined r := by
  change (if I.typeName r v = "object" then _ else _ : Work ρ V V) r = _
  rw [if_neg hKind]
  rfl

theorem jsonText_of_unwritten (hUnwritten : I.Unwritten stringify v r r') :
    ∃ w, I.jsonText stringify v r = .ok w r' ∧ I.isNullish w = true := by
  cases hUnwritten with
  | primitive hKind => exact ⟨_, jsonText_primitive hKind, I.isNullish_undefined⟩
  | empty hKind hCall hNone => exact ⟨_, (jsonText_object hKind).trans (Work.catching_ok hCall), hNone⟩
  | threw hKind hCall => exact ⟨_, (jsonText_object hKind).trans (Work.catching_thrown hCall), I.isNullish_undefined⟩

theorem unwritten_of_jsonText (hJson : I.jsonText stringify v r = .ok w r') (hNone : I.isNullish w = true) :
    I.Unwritten stringify v r r' := by
  by_cases hKind : I.typeName r v = "object"
  · rw [jsonText_object hKind, Work.catching_eq_ok_iff] at hJson
    rcases hJson with hCall | ⟨e, s, hCall, hCaught⟩
    · exact .empty hKind hCall hNone
    · cases hCaught
      exact .threw hKind hCall
  · rw [jsonText_primitive hKind] at hJson
    cases hJson
    exact .primitive hKind

/-- Only what the function for it gives for an object counts as JSON. -/
theorem call_of_jsonText (hJson : I.jsonText stringify v r = .ok w r') (hText : I.isNullish w = false) :
    I.typeName r v = "object" ∧ I.call stringify I.undefined [v, I.null, I.ofNat 2] r = .ok w r' := by
  have hSome : w ≠ I.undefined := by
    rintro rfl
    rw [I.isNullish_undefined] at hText
    cases hText
  by_cases hKind : I.typeName r v = "object"
  · rw [jsonText_object hKind, Work.catching_eq_ok_iff] at hJson
    rcases hJson with hCall | ⟨e, s, hCall, hCaught⟩
    · exact ⟨hKind, hCall⟩
    · cases hCaught
      exact absurd rfl hSome
  · rw [jsonText_primitive hKind] at hJson
    cases hJson
    exact absurd rfl hSome

/-- Nothing that writing throws gets out. -/
theorem jsonText_ne_thrown {e : V} : I.jsonText stringify v r ≠ .error (.thrown e) r' := by
  intro hJson
  by_cases hKind : I.typeName r v = "object"
  · rw [jsonText_object hKind, Work.catching_eq_thrown_iff] at hJson
    obtain ⟨d, s, -, hCaught⟩ := hJson
    cases hCaught
  · rw [jsonText_primitive hKind] at hJson
    cases hJson

/-- A value that is written as JSON is shown by this text. -/
theorem render_json (hSome : I.isNullish v = false) (hJson : I.jsonText stringify v r = .ok w r')
    (hText : I.isNullish w = false) : I.render stringify v r = .ok w r' := by
  rw [render, if_neg (Bool.eq_false_iff.mp hSome), Work.bind_ok hJson, if_neg (Bool.eq_false_iff.mp hText)]
  rfl

/-- A value that is not written as JSON is shown in another way. -/
theorem render_plain (hSome : I.isNullish v = false) (hJson : I.jsonText stringify v r = .ok w r')
    (hNone : I.isNullish w = true) : I.render stringify v r = I.plainText v r' := by
  rw [render, if_neg (Bool.eq_false_iff.mp hSome), Work.bind_ok hJson, if_pos hNone]
  rfl

theorem render_error {h : Halt V} (hSome : I.isNullish v = false) (hJson : I.jsonText stringify v r = .error h r') :
    I.render stringify v r = .error h r' := by
  rw [render, if_neg (Bool.eq_false_iff.mp hSome), Work.bind_error hJson]

theorem render_nullish (hNone : I.isNullish v = true) : I.render stringify v r = .ok I.null r := by
  rw [render, if_pos hNone]
  rfl

/-- A value is shown by the first of the ways that has something for it. -/
theorem render_eq_ok_iff : I.render stringify v r = .ok w r' ↔ I.Renders stringify v r w r' := by
  constructor
  · intro hRender
    cases hSome : I.isNullish v with
    | true =>
        rw [render_nullish hSome] at hRender
        cases hRender
        exact .nothing hSome
    | false =>
        cases hJson : I.jsonText stringify v r with
        | error h s =>
            rw [render_error hSome hJson] at hRender
            cases hRender
        | ok x s =>
            cases hNone : I.isNullish x with
            | false =>
                rw [render_json hSome hJson hNone] at hRender
                cases hRender
                obtain ⟨hKind, hCall⟩ := call_of_jsonText hJson hNone
                exact .json hSome hKind hCall hNone
            | true =>
                rw [render_plain hSome hJson hNone, plainText, Work.catching_eq_ok_iff] at hRender
                have hUnwritten := unwritten_of_jsonText hJson hNone
                rcases hRender with hText | ⟨e, u, hThrown, hClass⟩
                · exact .text hSome hUnwritten hText
                · exact .byClass hSome hUnwritten hThrown hClass
  · intro hRenders
    cases hRenders with
    | nothing hNone => exact render_nullish hNone
    | json hSome hKind hCall hText =>
        exact render_json hSome ((jsonText_object hKind).trans (Work.catching_ok hCall)) hText
    | text hSome hUnwritten hText =>
        obtain ⟨x, hJson, hNone⟩ := jsonText_of_unwritten hUnwritten
        exact (render_plain hSome hJson hNone).trans (Work.catching_ok hText)
    | byClass hSome hUnwritten hThrown hClass =>
        obtain ⟨x, hJson, hNone⟩ := jsonText_of_unwritten hUnwritten
        exact (render_plain hSome hJson hNone).trans ((Work.catching_thrown hThrown).trans hClass)

/-- What is thrown while a value is shown leaves the harness only from the last way, which is taken only after the text
of the value has thrown. -/
theorem unshown_iff : I.Unshown stringify v r ↔ ∃ e r', I.render stringify v r = .error (.thrown e) r' := by
  constructor
  · rintro ⟨hSome, s, d, u, e, r', hUnwritten, hThrown, hClass⟩
    obtain ⟨x, hJson, hNone⟩ := jsonText_of_unwritten hUnwritten
    exact ⟨e, r', (render_plain hSome hJson hNone).trans ((Work.catching_thrown hThrown).trans hClass)⟩
  · rintro ⟨e, r', hRender⟩
    cases hSome : I.isNullish v with
    | true =>
        rw [render_nullish hSome] at hRender
        cases hRender
    | false =>
        refine ⟨hSome, ?_⟩
        cases hJson : I.jsonText stringify v r with
        | error h s =>
            rw [render_error hSome hJson] at hRender
            cases hRender
            exact absurd hJson jsonText_ne_thrown
        | ok x s =>
            cases hNone : I.isNullish x with
            | false =>
                rw [render_json hSome hJson hNone] at hRender
                cases hRender
            | true =>
                rw [render_plain hSome hJson hNone, plainText, Work.catching_eq_thrown_iff] at hRender
                obtain ⟨d, u, hThrown, hClass⟩ := hRender
                exact ⟨s, d, u, e, r', unwritten_of_jsonText hJson hNone, hThrown, hClass⟩

variable (I) in
/-- With its tools at hand the harness evaluates the snippet and goes on with what this comes to. -/
theorem harness_ready (hTools : I.tools r = .ok (reader, stringify) start) :
    I.harness code r = (I.attempt code >>= I.conclusion reader stringify) start := by
  rw [harness, Work.bind_ok hTools]

section

variable (I)

theorem concluded_completed (hEnd : I.evaluation code start = .ok v r) :
    (I.attempt code >>= I.conclusion reader stringify) start = I.conclusion reader stringify (.completed v) r := by
  have hAttempt : I.attempt code start = .ok (.completed v) r := Work.catching_ok (Work.bind_ok hEnd)
  exact Work.bind_ok hAttempt

theorem concluded_threw (hEnd : I.evaluation code start = .error (.thrown v) r) :
    (I.attempt code >>= I.conclusion reader stringify) start = I.conclusion reader stringify (.threw v) r := by
  have hAttempt : I.attempt code start = .ok (.threw v) r := Work.catching_thrown (Work.bind_error hEnd)
  exact Work.bind_ok hAttempt

theorem concluded_stopped {f : Failure} (hEnd : I.evaluation code start = .error (.stopped f) r) :
    (I.attempt code >>= I.conclusion reader stringify) start = .error (.stopped f) r := by
  have hAttempt : I.attempt code start = .error (.stopped f) r := Work.catching_stopped (Work.bind_error hEnd)
  exact Work.bind_error hAttempt

end

/-- A completed evaluation is reported with what is shown of its value. -/
theorem conclusion_completed (hRender : I.render stringify v r = .ok w r') :
    I.conclusion reader stringify (.completed v) r =
      I.report reader stringify [("ok", I.ofBool true), ("value", w)] r' := by
  have hFields : I.fields stringify (.completed v) r = .ok [("ok", I.ofBool true), ("value", w)] r' :=
    Work.bind_ok hRender
  exact Work.bind_ok hFields

theorem conclusion_unrendered {h : Halt V} (hRender : I.render stringify v r = .error h r') :
    I.conclusion reader stringify (.completed v) r = .error h r' := by
  have hFields : I.fields stringify (.completed v) r = .error h r' := Work.bind_error hRender
  exact Work.bind_error hFields

/-- An evaluation that has thrown is reported with what is told of the value. -/
theorem conclusion_threw (hDescribe : I.describe v r = .ok w r') :
    I.conclusion reader stringify (.threw v) r =
      I.report reader stringify [("ok", I.ofBool false), ("error", w)] r' := by
  have hFields : I.fields stringify (.threw v) r = .ok [("ok", I.ofBool false), ("error", w)] r' :=
    Work.bind_ok hDescribe
  exact Work.bind_ok hFields

theorem conclusion_undescribed {h : Halt V} (hDescribe : I.describe v r = .error h r') :
    I.conclusion reader stringify (.threw v) r = .error h r' := by
  have hFields : I.fields stringify (.threw v) r = .error h r' := Work.bind_error hDescribe
  exact Work.bind_error hFields

end Interpreter

end SnippetService.Snippet
