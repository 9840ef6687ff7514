import SnippetService.Script.Library.ObjectMethods
/-!
The constructor `Function` and what all functions inherit.
-/
namespace SnippetService.Script.Library

open Run Evaluate

namespace FunctionMethods

/-- Make a function from the texts of its parameters and its body. -/
def construct (opening : Units) : Action := fun c => do
  let texts ← c.args.toList.mapM toText
  let params := Units.join "," texts.dropLast
  let body := texts.getLast?.getD {}
  program ("(" ++ opening ++ " anonymous(" ++ params ++ "\n) \x7b\n" ++ body ++ "\n\x7d)")

def apply : Action := fun c => do
  if !(← isCallable c.this) then fail .notAFunction
  else
    let args ← if (c.arg 1).isNullish then pure #[] else elementsOf (c.arg 1)
    call c.this (c.arg 0) args

def callMethod : Action := fun c => call c.this (c.arg 0) (c.args.extract 1 c.args.size)

def bind : Action := fun c => do
  if !(← isCallable c.this) then fail .notAFunction
  else
    let target ← objectArg c.this
    let first := c.args.extract 1 c.args.size
    let name ← match ← get c.this "name" with
      | .string s => pure s
      | _ => pure {}
    let length ← match ← own? target "length" with
      | some _ => match ← get c.this "length" with
        | .number x => pure (max 0 (NumberText.toInt x - first.size))
        | _ => pure 0
      | none => pure 0
    allocValue
      { proto := ← proto? target
        kind := .bound c.this (c.arg 0) first
        entries := #[("length", .data (.number (Float.ofInt length)) false false true),
          ("name", .data (.string ("bound " ++ name)) false false true)] }

/-- The text of a function that the library provides. -/
def nativeText (name : Units) : Units := "function " ++ name ++ "() \x7b\n    [native code]\n\x7d"

def toString : Action := fun c => do
  if !(← isCallable c.this) then fail .notAFunction
  else
    let ref ← objectArg c.this
    let name ← match ← get c.this "name" with
      | .undefined => pure {}
      | v => toText v
    match ← kindOf ref with
    | .closure closure =>
      let code := (← MonadState.get).code
      let source := match closure.code with
        | .function i => (code.functions[i]?.map (·.source)).getD {}
        | .standardConstructor i => (code.classes[i]?.map (·.source)).getD {}
      return .string (if source.isEmpty then nativeText name else source)
    | _ => return .string (nativeText name)

def hasInstance : Action := fun c => do
  return .boolean (← ordinaryInstance chainLimit (c.arg 0) c.this)

def standardClass : StandardClass where
  name := "Function"
  arity := 1
  prototype := some .functionPrototype
  run := construct "function"

def prototype : StandardObject where
  place := .functionPrototype
  features :=
    [.entry "length" (.data (.number 0.0) false false true),
     .entry "name" (.data (.string {}) false false true),
     .method "call" 1 callMethod,
     .method "apply" 2 apply,
     .method "bind" 1 bind,
     .method "toString" 0 toString,
     .method WellKnown.hasInstance.key 1 hasInstance,
     .forbidden "caller",
     .forbidden "arguments"]

def thrower : StandardFunction where
  place := .throwTypeError
  name := ""
  arity := 0
  run := fun _ => fail .invalidAccess

end FunctionMethods

end SnippetService.Script.Library
