import SnippetService.Script.Library.Standard
/-!
A script context: a store that keeps what texts have done to it, and the evaluation of one text after
another. Each evaluation has a budget of steps of its own.
-/
namespace SnippetService.Script

structure Context where
  realm : Realm
  /-- How many steps an evaluation may take. -/
  steps : Nat

namespace Context

/-- A new context. -/
def fresh (steps : Nat) : Context := ⟨Library.freshRealm, steps⟩

/-- Where lines that tell a position begin. -/
def stackMark : Units := "\n    at "

/-- The position behind the next line feed, or the end. -/
def nextLine (s : Units) (i : Nat) : Nat :=
  match s.indexOf? "\n" i with
  | some e => e
  | none => s.size

/-- The end of a run of lines that tell positions. -/
def stackEnd (s : Units) : Nat → Nat → Nat
  | 0, i => i
  | fuel + 1, i =>
    if s.matchesAt i stackMark then stackEnd s fuel (nextLine s (i + 1)) else i

/-- A text without the lines that tell positions; the line feed behind such lines goes with them. -/
def withoutPositions (s : Units) : Nat → Nat → Units → Units
  | 0, _, found => found
  | fuel + 1, i, found =>
    match s.indexOf? stackMark i with
    | none => found ++ s.slice i s.size
    | some e =>
      let stop := stackEnd s (s.size + 1) e
      let next := if s.unit stop == 10 && stop < s.size then stop + 1 else stop
      withoutPositions s fuel next (found ++ s.slice i e)

/-- The text of a value that was thrown: the value itself and, below, where it arose if it tells. -/
def thrownText (v : Value) : Run Units := do
  let text ← match ← Run.attempt (Run.toText v) with
    | .ok text => pure text
    | .error _ => pure ("(Failed obtaining QuickJS error string. Concurrency issue?)" : Units)
  let stack ← if v.isNullish then pure {} else
    match ← Run.attempt (do Run.toText (← Run.get v "stack")) with
    | .ok text => pure text
    | .error _ => pure {}
  let whole := text ++ "\n" ++ stack
  return withoutPositions whole (whole.size + 1) 0 {}

/-- The text of an evaluation that was interrupted. -/
def interruptedText : Units := "InternalError: interrupted"

/-- Evaluate a text. The store is kept however the evaluation ends. -/
def eval (c : Context) (text : Units) : Except Units Value × Context :=
  let start := { c.realm with budget := c.steps }
  match Library.machine.calls.program text start with
  | .ok v realm => (.ok v, { c with realm := realm })
  | .error (.thrown v) realm =>
    match (thrownText v).run Library.machine.calls { realm with budget := c.steps } with
    | .ok text realm => (.error text, { c with realm := realm })
    | .error _ realm => (.error interruptedText, { c with realm := realm })
  | .error _ realm => (.error interruptedText, { c with realm := realm })

end Context

end SnippetService.Script
