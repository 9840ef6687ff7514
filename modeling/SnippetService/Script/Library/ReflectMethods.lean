import SnippetService.Script.Library.FunctionMethods
/-!
The object `Reflect` and the constructor `Proxy`.
-/
namespace SnippetService.Script.Library.ReflectMethods

open Run Evaluate

def apply : Action := fun c => do
  if !(← isCallable (c.arg 0)) then fail .notAFunction
  else call (c.arg 0) (c.arg 1) (← elementsOf (c.arg 2))

def construct : Action := fun c => do
  let newTarget := if c.args.size < 3 then c.arg 0 else c.arg 2
  if !(← isConstructor (c.arg 0)) || !(← isConstructor newTarget) then fail .notAConstructor
  else Run.construct (c.arg 0) (← elementsOf (c.arg 1)) newTarget

def defineProperty : Action := fun c => do
  let ref ← objectArg (c.arg 0)
  let k ← toKey (c.arg 1)
  let d ← toDescriptor (c.arg 2)
  return .boolean (← defineChecked ref k d false)

def deleteProperty : Action := fun c => do
  let ref ← objectArg (c.arg 0)
  return .boolean (← deleteFrom chainLimit ref (← toKey (c.arg 1)))

def getProperty : Action := fun c => do
  let ref ← objectArg (c.arg 0)
  let k ← toKey (c.arg 1)
  getFrom chainLimit ref k (if c.args.size < 3 then c.arg 0 else c.arg 2)

def setProperty : Action := fun c => do
  let ref ← objectArg (c.arg 0)
  let k ← toKey (c.arg 1)
  let receiver := if c.args.size < 4 then c.arg 0 else c.arg 3
  return .boolean (← putFrom chainLimit ref k (c.arg 2) receiver false)

def setPrototype : Action := fun c => do
  let ref ← objectArg (c.arg 0)
  match c.arg 1 with
  | .object p => return .boolean (← Run.setPrototype ref (some p) false)
  | .null => return .boolean (← Run.setPrototype ref none false)
  | _ => fail .notAnObject

def standardObject : StandardObject where
  place := .reflect
  features :=
    [.method "apply" 3 apply,
     .method "construct" 2 construct,
     .method "defineProperty" 3 defineProperty,
     .method "deleteProperty" 2 deleteProperty,
     .method "get" 2 getProperty,
     .method "getOwnPropertyDescriptor" 2 fun c => do
       let _ ← objectArg (c.arg 0)
       ObjectMethods.getOwnPropertyDescriptor c,
     .method "getPrototypeOf" 1 fun c => do
       let _ ← objectArg (c.arg 0)
       ObjectMethods.getPrototypeOf c,
     .method "has" 2 fun c => do
       let ref ← objectArg (c.arg 0)
       return .boolean (← has ref (← toKey (c.arg 1))),
     .method "isExtensible" 1 fun c => do
       return .boolean (← ObjectMethods.isExtensible (← objectArg (c.arg 0))),
     .method "ownKeys" 1 fun c => do
       let ref ← objectArg (c.arg 0)
       newArray ((← ownKeys ref).map Key.toValue).toArray,
     .method "preventExtensions" 1 fun c => do
       return .boolean (← ObjectMethods.preventExtensions (← objectArg (c.arg 0))),
     .method "set" 3 setProperty,
     .method "setPrototypeOf" 2 setPrototype,
     .tag "Reflect"]

/-- A new proxy. It can be called or constructed with if its target can. -/
def newProxy (target handler : Value) : Run Nat := do
  match target, handler with
  | .object t, .object h =>
    let callable ← isCallable target
    let constructible ← isConstructor target
    alloc { proto := none, kind := .proxy (some (t, h)) callable constructible }
  | _, _ => fail .notAnObject

def constructProxy : Action := fun c => do
  if c.newTarget.isUndefined then fail .onlyConstructor
  else return .object (← newProxy (c.arg 0) (c.arg 1))

/-- Take target and handler away from a proxy. -/
def revoke (ref : Nat) : Run Unit := do
  match ← kindOf ref with
  | .proxy _ callable constructible => setKind ref (.proxy none callable constructible)
  | _ => return

/-- The function that `Proxy.revocable` hands out copies of. -/
def revokeFunction : StandardFunction where
  place := .proxyRevoke
  name := ""
  arity := 0
  run := fun c => do
    match c.data.getD 0 .undefined with
    | .object ref => revoke ref
    | _ => pure ()
    return .undefined

/-- A copy of a function of the library, made for some values. -/
def madeFor (i : Intrinsic) (data : Array Value) : Run Value := do
  let o ← obj i.ref
  match o.kind with
  | .native id constructs _ => allocValue { o with kind := .native id constructs data }
  | _ => allocValue o

def revocable : Action := fun c => do
  let ref ← newProxy (c.arg 0) (c.arg 1)
  let result ← newObject
  defineValue result "proxy" (.object ref)
  defineValue result "revoke" (← madeFor .proxyRevoke #[.object ref])
  return .object result

def proxyClass : StandardClass where
  name := "Proxy"
  arity := 2
  prototype := none
  run := constructProxy
  statics := [.method "revocable" 2 revocable]

end SnippetService.Script.Library.ReflectMethods
