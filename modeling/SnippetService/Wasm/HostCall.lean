import SnippetService.Wasm.Argument
import SnippetService.Wasm.Machine
/-!
The functions that the host lends to modules. They answer zeros of the types that the module expects.
-/
namespace SnippetService.Wasm

/-- The zero of a type, as the host gives it. -/
def zero : ValueType → Datum
  | .float _ => .real 0.0
  | _ => .integer 0

/-- What a host function gives back for its result types: nothing, one number, or a list of them. -/
def stubReturn : List ValueType → Datum
  | [] => .null
  | [t] => zero t
  | ts => .list (ts.map zero)

namespace HostFunction

/-- The line that a call prints. Parameters that are missing count as zero where a number is needed. -/
def line? (h : HostFunction) (params : List Datum) : Except Failure (Option Text) := do
  match h with
  | print =>
    match params with
    | [] => return some "\n"
    | p :: _ => return some ((← formatNumber p) ++ "\n")
  | printText =>
    let start ← formatNumber (params.getD 0 (.integer 0))
    let length ← formatNumber (params.getD 1 (.integer 0))
    return some ("[String at " ++ start ++ ", length " ++ length ++ "]\n")
  | stub => return none

end HostFunction

/-- What a host function has given back, as values of its result types. -/
def returned (types : List ValueType) (d : Datum) : Except Failure (List Value) :=
  match types, d with
  | [t], d => (argument d t).map ([·])
  | ts, .list ds => (ds.zip ts).mapM fun (d, t) => argument d t
  | _, _ => .ok []

/-- Run a host function on parameters. -/
def HostFunction.call (h : HostFunction) (env : Fixture) (type : FunctionType) (params : List Value) :
    Act (List Value) := do
  let answer := do
    let line ← h.line? (params.map (Value.toDatum env.surroundings.reference))
    return (line, returned type.results (stubReturn type.results))
  match answer with
  | .error f => throw (.failed f)
  | .ok (line, results) =>
    match line with
    | some s => modify fun m => { m with lines := s :: m.lines }
    | none => pure ()
    match results with
    | .ok vs => return vs
    | .error f => throw (.failed f)

end SnippetService.Wasm
