import SnippetService.Wasm.Rendering
import SnippetService.Wasm.Value
/-!
Arguments of calls from outside, fitted to the types of the parameters: integers lose a fraction and wrap
to their width, floats are rounded.
-/
namespace SnippetService.Wasm

def wrongType (text : Text) : Failure := .unexpected .wrongType text

/-- A value as a whole number. -/
def wholeNumber (d : Datum) : Except Failure Int :=
  match d with
  | .integer n => .ok n
  | .boolean b => .ok (if b then 1 else 0)
  | .real x =>
    match BinaryValue.ofDouble x with
    | .nan => .error (.unexpected .value "cannot convert float NaN to integer")
    | .infinity _ => .error (.unexpected .overflow "cannot convert float infinity to integer")
    | v => .ok (v.truncate?.getD 0)
  | .text s =>
    match s.plain?.bind Digits.readInt? with
    | some n => .ok n
    | none => .error (.unexpected .value
        ("invalid literal for int() with base 10: " ++ Quoted.text s))
  | d => .error (wrongType ("int() argument must be a string, a bytes-like object or a real number, not '" ++
      d.className ++ "'"))

/-- A value as a float. -/
def realNumber (d : Datum) : Except Failure Float :=
  match d with
  | .real x => .ok x
  | .integer n =>
    let x := doubleOfInt n
    if x.isInf then .error (.unexpected .overflow "int too large to convert to float") else .ok x
  | .boolean b => .ok (if b then 1.0 else 0.0)
  | d => .error (wrongType ("float() argument must be a string or a real number, not '" ++
      d.className ++ "'"))

/-- A number of the kind that a type calls for. -/
def coerce (d : Datum) (t : ValueType) : Except Failure Datum :=
  match t with
  | .float _ => (realNumber d).map .real
  | _ => (wholeNumber d).map .integer

/-- A number as a value of a type. No number is a function. -/
def argument (d : Datum) (t : ValueType) : Except Failure Value := do
  match t with
  | .int .w32 => return .i32 (.ofInt 32 (← wholeNumber d))
  | .int .w64 => return .i64 (.ofInt 64 (← wholeNumber d))
  | .float .w32 =>
    return .f32 (.ofNat 32 (BinaryFormat.double.convert .single (← realNumber d).toBits.toNat))
  | .float .w64 => return .f64 (.ofNat 64 (← realNumber d).toBits.toNat)
  | .ref .external => return .external (some (← wholeNumber d))
  | .ref .function =>
    throw (wrongType ("don't know how to convert " ++ toString (← wholeNumber d) ++ " to funcref"))

/-- All arguments are coerced before the first one is passed. -/
def arguments (ds : List Datum) (ts : List ValueType) : Except Failure (List Value) := do
  let coerced ← (ds.zip ts).mapM fun (d, t) => coerce d t
  (coerced.zip ts).mapM fun (d, t) => argument d t

end SnippetService.Wasm
