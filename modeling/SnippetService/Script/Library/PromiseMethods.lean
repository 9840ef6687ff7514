import SnippetService.Script.Library.ReflectMethods
/-!
Promises. What waits for a promise never runs, since nothing runs after the program; a promise is
settled by its executor or stays pending.
-/
namespace SnippetService.Script.Library.PromiseMethods

open Run Evaluate

/-- Settle a pending promise. -/
def settle (ref : Nat) (state : PromiseState) : Run Unit := do
  match ← kindOf ref with
  | .promise .pending => setKind ref (.promise state)
  | _ => return

/-- Whether a value brings its own way of waiting for it. -/
def isThenable (v : Value) : Run Bool := do
  if v.isObject then isCallable (← get v "then") else return false

/-- Resolve a promise. A value to wait for leaves it pending. -/
def resolveWith (ref : Nat) (v : Value) : Run Unit := do
  match ← attempt (isThenable v) with
  | .ok true => return
  | .ok false => settle ref (.fulfilled v)
  | .error e => settle ref (.rejected e)

/-- The functions that settle the promise they were made for. -/
def settler (place : Intrinsic) (act : Nat → Value → Run Unit) : StandardFunction where
  place := place
  name := ""
  arity := 1
  run := fun c => do
    match c.data.getD 0 .undefined with
    | .object ref => act ref (c.arg 0)
    | _ => pure ()
    return .undefined

def functions : List StandardFunction :=
  [settler .promiseResolve resolveWith,
   settler .promiseReject fun ref v => settle ref (.rejected v)]

def construct : Action := fun c => do
  if c.newTarget.isUndefined then fail .onlyConstructor
  else if !(← isCallable (c.arg 0)) then fail .notAFunction
  else
    let p ← prototypeFor c.newTarget .promisePrototype
    let ref ← alloc { proto := some p, kind := .promise .pending }
    let resolve ← ReflectMethods.madeFor .promiseResolve #[.object ref]
    let reject ← ReflectMethods.madeFor .promiseReject #[.object ref]
    match ← attempt (call (c.arg 0) .undefined #[resolve, reject]) with
    | .ok _ => return .object ref
    | .error e =>
      settle ref (.rejected e)
      return .object ref

def isPromise (v : Value) : Run Bool := do
  match v with
  | .object ref => return match ← kindOf ref with
    | .promise _ => true
    | _ => false
  | _ => return false

/-- A promise for what follows, which never comes. -/
def andThen : Action := fun c => do
  if ← isPromise c.this then newPromise .pending else fail (.badReceiver "Promise")

def resolve : Action := fun c => do
  if ← isPromise (c.arg 0) then return c.arg 0
  else
    let v ← newPromise .pending
    resolveWith (← objectArg v) (c.arg 0)
    return v

/-- A promise over several others. -/
def combined : Action := fun c => do
  match ← attempt (iterate (c.arg 0)) with
  | .ok _ => newPromise .pending
  | .error e => newPromise (.rejected e)

def standardClass : StandardClass where
  name := "Promise"
  arity := 1
  prototype := some .promisePrototype
  run := construct
  statics :=
    [.method "resolve" 1 resolve,
     .method "reject" 1 fun c => newPromise (.rejected (c.arg 0)),
     .method "all" 1 combined,
     .method "allSettled" 1 combined,
     .method "any" 1 combined,
     .method "race" 1 combined,
     .getter WellKnown.species.key fun c => return c.this]

def prototype : StandardObject where
  place := .promisePrototype
  features :=
    [.method "then" 2 andThen,
     .method "catch" 1 fun c => invoke c.this "then" #[.undefined, c.arg 0],
     .method "finally" 1 fun c => invoke c.this "then" #[c.arg 0, c.arg 0],
     .tag "Promise"]

end SnippetService.Script.Library.PromiseMethods
