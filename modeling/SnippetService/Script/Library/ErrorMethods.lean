import SnippetService.Script.Library.ObjectMethods
/-!
The constructors of errors.
-/
namespace SnippetService.Script.Library

open Run Evaluate

namespace ErrorMethods

/-- The prototype of a new object: that of the constructor that `new` named, or else of the function
that is called. -/
def prototypeOfCall (c : NativeCall) (standard : Intrinsic) : Run Nat :=
  prototypeFor (if c.newTarget.isUndefined then c.callee else c.newTarget) standard

def construct (cls : ErrorClass) : Action := fun c => do
  let proto ← prototypeOfCall c (errorPrototype cls)
  let ref ← alloc { proto := some proto, kind := .error }
  let message := if cls == .aggregateError then c.arg 1 else c.arg 0
  if !message.isUndefined then
    let text ← toText message
    modifyObj ref fun o => o.put "message" (.builtin (.string text))
  if cls == .aggregateError then
    let errors ← newArray (← iterate (c.arg 0))
    modifyObj ref fun o => o.put "errors" (.builtin errors)
  modifyObj ref fun o => o.put "stack" (.builtin (.string stackText))
  return .object ref

def toString : Action := fun c => do
  if !c.this.isObject then fail .notAnObject
  else
    let name ← match ← get c.this "name" with
      | .undefined => pure ("Error" : Units)
      | v => toText v
    let message ← match ← get c.this "message" with
      | .undefined => pure {}
      | v => toText v
    let separator : Units := if name.isEmpty || message.isEmpty then {} else ": "
    return .string (name ++ separator ++ message)

def classes : List ErrorClass :=
  [.error, .evalError, .rangeError, .referenceError, .syntaxError, .typeError, .uriError,
    .internalError, .aggregateError]

def standardClass (cls : ErrorClass) : StandardClass where
  name := cls.name
  arity := if cls == .aggregateError then 2 else 1
  prototype := errorPrototype cls
  run := construct cls
  parent := if cls == .error then none else some "Error"

def prototype (cls : ErrorClass) : StandardObject where
  place := errorPrototype cls
  parent := some (if cls == .error then .objectPrototype else .errorPrototype)
  features :=
    [.entry "name" (.builtin (.string cls.name)), .entry "message" (.builtin (.string {}))] ++
      (if cls == .error then [.method "toString" 0 toString] else [])

end ErrorMethods

end SnippetService.Script.Library
