import SnippetService.Script.Evaluate.Statement
/-!
Calling functions and making objects with constructors. A call gets a scope for its parameters and
variables; an arrow function shares `this` with the code around it, any other function has its own.
-/
namespace SnippetService.Script

/-- A call of a built-in function. -/
structure NativeCall where
  this : Value
  args : Array Value
  /-- The constructor that `new` named; `undefined` in a plain call. -/
  newTarget : Value
  callee : Value
  /-- What the function was made for. -/
  data : Array Value

namespace NativeCall

/-- The argument at an index; one that is missing is `undefined`. -/
def arg (c : NativeCall) (i : Nat) : Value := c.args.getD i .undefined

end NativeCall

/-- A function of the library. -/
structure Native where
  name : Units
  arity : Nat
  constructs : Bool := false
  run : NativeCall → Run Value

namespace Evaluate

open Run

/-- The object that `arguments` names. -/
def argumentsObject (callee : Value) (strict : Bool) (args : Array Value) : Run Value := do
  let thrower := Intrinsic.throwTypeError.value
  let indexed : Array (Key × Entry) := args.mapIdx fun i v => (Key.index i, Entry.plain v)
  let fixed : Array (Key × Entry) := #[
    ("length", .builtin (.ofNat args.size)),
    (WellKnown.iterator.key, .builtin Intrinsic.arrayValues.value),
    ("callee", if strict then .accessor thrower thrower false false else .builtin callee)]
  allocValue
    { proto := some Intrinsic.objectPrototype.ref
      kind := .arguments
      entries := indexed ++ fixed }

/-- The variables of a call before its parameters have their values. -/
def initialBindings (node : FunctionNode) (callee : Value) (args : Array Value) :
    Run (Array Binding) := do
  let names := node.paramNames
  let params : Array Binding :=
    if node.simpleParams then
      -- Of several parameters of one name the last counts.
      (names.zipIdx.foldl (fun (found : Array Binding) (name, i) =>
        let b : Binding := { name := name, value := some (args.getD i .undefined) }
        match found.findIdx? fun x => x.name == name with
        | some j => found.set! j b
        | none => found.push b) #[])
    else (names.map fun name => { name := name, value := none : Binding }).toArray
  let known (name : Units) : Bool := names.contains name || node.vars.contains name ||
    node.declared.names.any fun n => n.name == name
  let own : Array Binding :=
    if node.ownName && !known node.name then
      #[{ name := node.name, value := some callee, constant := true, lenient := true }]
    else #[]
  let given : Array Binding ←
    if node.usesArguments && node.kind != .arrow && !names.contains "arguments" then do
      let v ← argumentsObject callee node.strict args
      pure #[{ name := "arguments", value := some v }]
    else pure #[]
  return params ++ own ++ given

/-- Give the parameters of a call their values. -/
def bindParams (ev : Evaluator) (f : Frame) (args : Array Value) : List Pattern → Nat → Run Unit
  | [], _ => return
  | p :: rest, i => do
    match p with
    | .rest target => ev.bind f .first target (← newArray (args.extract i args.size))
    | p =>
      ev.bind f .first p (args.getD i .undefined)
      bindParams ev f args rest (i + 1)

/-- Add the variables of a body that no parameter has declared. -/
def addVars (scope : Nat) (node : FunctionNode) : Run Unit :=
  modify fun r => { r with
    scopes := r.scopes.modify scope fun s =>
      let fresh := node.vars.filter fun name => !(s.bindings.any fun b => b.name == name)
      let vars := fresh.map fun name => { name := name, value := some .undefined : Binding }
      { s with bindings := s.bindings ++ vars.toArray ++ unreached node.declared.names } }

/-- The value of `this` that a function sees. Code that is not strict sees objects only. -/
def receivedThis (strict : Bool) (this : Value) : Run Value := do
  if strict then return this
  else if this.isNullish then return Intrinsic.global.value
  else return .object (← toObject this)

/-- Run the body of a function in an activation. -/
def runBody (ev : Evaluator) (node : FunctionNode) (scope activation : Nat) (callee : Value)
    (args : Array Value) : Run Value := do
  let bindings ← initialBindings node callee args
  let id ← newScope .names bindings scope
  let f : Frame := { scope := id, varScope := id, activation := activation, strict := node.strict }
  if !node.simpleParams then bindParams ev f args node.params 0
  addVars id node
  makeDeclared f node.declared
  match ← sequence ev f node.body with
  | .returned v => return v
  | _ => return .undefined

/-- A new promise. -/
def newPromise (state : PromiseState) : Run Value :=
  allocValue { proto := some Intrinsic.promisePrototype.ref, kind := .promise state }

/-- Run the body of an asynchronous function up to its end or to the first value it waits for. What
would follow such a value never runs, since nothing runs after the program. -/
def runAsync (body : Run Value) : Run Value := fun c s =>
  match body c s with
  | .ok v s => (newPromise (.fulfilled v)) c s
  | .error (.thrown v) s => (newPromise (.rejected v)) c s
  | .error .suspended s => (newPromise .pending) c s
  | .error h s => .error h s

/-- Undo the growth of scopes and activations during a call that has created no object: then nothing
refers to them. -/
def reclaiming (r : Run Value) : Run Value := do
  let before ← MonadState.get
  let objects := before.objects.size
  let scopes := before.scopes.size
  let activations := before.activations.size
  let v ← r
  modify fun r =>
    if r.objects.size == objects then
      { r with
        scopes := r.scopes.shrink scopes
        activations := r.activations.shrink activations }
    else r
  return v

/-- Call a function of a script. -/
def callFunction (ev : Evaluator) (callee : Value) (c : Closure) (node : FunctionNode)
    (this : Value) (args : Array Value) : Run Value :=
  reclaiming do
    let activation ← match node.kind with
      | .arrow => pure c.activation
      | _ =>
        newActivation
          { this := some (← receivedThis node.strict this)
            function := callee
            newTarget := .undefined
            home := c.home }
    let body := runBody ev node c.scope activation callee args
    if node.isAsync then runAsync body else body

/-- The prototype of the objects that a constructor makes. -/
def prototypeFor (newTarget : Value) (standard : Intrinsic) : Run Nat := do
  match ← get newTarget "prototype" with
  | .object p => return p
  | _ => return standard.ref

/-- Make an object with a class or a function of a script. -/
def constructFunction (ev : Evaluator) (callee : Value) (c : Closure) (args : Array Value)
    (newTarget : Value) : Run Value := do
  let this ← if c.derived then pure none else do
    let p ← prototypeFor newTarget .objectPrototype
    pure (some (Value.object (← newObject (some p))))
  let activation ← newActivation
    { this := this, function := callee, newTarget := newTarget, home := c.home }
  match this with
  | some this => if c.isClass then initFields this callee
  | none => pure ()
  let result ← match c.code with
    | .standardConstructor _ =>
      if c.derived then
        let f : Frame :=
          { scope := c.scope, varScope := c.scope, activation := activation, strict := true }
        let _ ← callSuper f args
      pure .undefined
    | .function index =>
      match ← codeOf index with
      | some node => runBody ev node c.scope activation callee args
      | none => pure .undefined
  if result.isObject then return result
  else if c.derived && !result.isUndefined then fail .constructorResult
  else match (← Run.activation activation).this with
    | some v => return v
    | none => fail (.notInitialized "this")

/-- Run a function of the library. -/
def runNative (natives : Array Native) (id : Nat) (c : NativeCall) : Run Value :=
  match natives[id]? with
  | some native => native.run c
  | none => return .undefined

/-- Call a value. -/
def callValue (ev : Evaluator) (natives : Array Native) (v this : Value) (args : Array Value) :
    Run Value := do
  step
  match v with
  | .object ref =>
    match ← kindOf ref with
    | .closure c =>
      if c.isClass then fail .classWithoutNew
      else match c.code with
        | .function index =>
          match ← codeOf index with
          | some node => callFunction ev v c node this args
          | none => return .undefined
        | .standardConstructor _ => fail .classWithoutNew
    | .native id _ data =>
      runNative natives id
        { this := this, args := args, newTarget := .undefined, callee := v, data := data }
    | .bound target this first => call target this (first ++ args)
    | .proxy none _ _ => fail .revokedProxy
    | .proxy (some (target, handler)) true _ =>
      match ← getMethod (.object handler) "apply" with
      | some trap => call trap (.object handler) #[.object target, this, ← newArray args]
      | none => call (.object target) this args
    | _ => fail .notAFunction
  | _ => fail .notAFunction

/-- Make an object with a constructor. -/
def constructValue (ev : Evaluator) (natives : Array Native) (v : Value) (args : Array Value)
    (newTarget : Value) : Run Value := do
  step
  if !(← isConstructor v) then fail .notAConstructor
  else match v with
    | .object ref =>
      match ← kindOf ref with
      | .closure c => constructFunction ev v c args newTarget
      | .native id _ data =>
        runNative natives id
          { this := .undefined, args := args, newTarget := newTarget, callee := v, data := data }
      | .bound target _ first =>
        let newTarget := if Value.strictEq v newTarget then target else newTarget
        construct target (first ++ args) newTarget
      | .proxy none _ _ => fail .revokedProxy
      | .proxy (some (target, handler)) _ _ =>
        match ← getMethod (.object handler) "construct" with
        | some trap =>
          let list ← newArray args
          let made ← call trap (.object handler) #[.object target, list, newTarget]
          if made.isObject then return made else fail .notAnObject
        | none =>
          let newTarget := if Value.strictEq v newTarget then .object target else newTarget
          construct (.object target) args newTarget
      | _ => fail .notAConstructor
    | _ => fail .notAConstructor

end Evaluate

end SnippetService.Script
