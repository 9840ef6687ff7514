import SnippetService.Script.Names
import SnippetService.Script.Iteration
import SnippetService.Script.Operator
/-!
What the evaluation of code depends on, and the functions that code creates. The evaluators of
expressions, statements and patterns contain one another; they are fields of an `Evaluator`, and each
part is written for any such evaluator.
-/
namespace SnippetService.Script

/-- Where code runs. -/
structure Frame where
  scope : Nat
  /-- The scope that variables of the whole body belong to. -/
  varScope : Nat
  activation : Nat
  strict : Bool
  /-- Whether expression statements give the program its value. -/
  collects : Bool := false

/-- How a statement ends when nothing is thrown. -/
inductive Completion where
  | normal
  | breakTo (label : Option Units)
  | continueTo (label : Option Units)
  | returned (v : Value)

/-- Whether a target is being declared or assigned to. -/
inductive BindMode where
  | assign
  /-- The name gets its first value. -/
  | first
  /-- The name is a variable that exists. -/
  | var

structure Evaluator where
  expr : Frame → Expr → Run Value
  /-- A part of a chain of accesses; nothing if the chain ends early. -/
  link : Frame → Expr → Run (Option Value)
  bind : Frame → BindMode → Pattern → Value → Run Unit
  stmt : Frame → List Units → Stmt → Run Completion

namespace Run

/-- The name that a property gives to a function. -/
def functionNameOf (k : Key) : Run Units := do
  match k with
  | .symbol id =>
    match (← MonadState.get).symbols.getD id none with
    | some text => return "[" ++ text ++ "]"
    | none => return {}
  | _ => keyText k

/-- The function with an index in the code table. -/
def codeOf (index : Nat) : Run (Option FunctionNode) :=
  return (← MonadState.get).code.functions[index]?

/-- The properties every function has. -/
def functionEntries (arity : Nat) (name : Units) : Array (Key × Entry) :=
  #[("length", .data (.ofNat arity) false false true), ("name", .data (.string name) false false true)]

/-- The prototype that a function itself has. -/
def functionPrototypeOf (f : FunctionNode) : Intrinsic :=
  if f.isAsync && f.isGenerator then .asyncGeneratorFunctionPrototype
  else if f.isGenerator then .generatorFunctionPrototype
  else if f.isAsync then .asyncFunctionPrototype
  else .functionPrototype

/-- Create a function in a frame. -/
def makeFunction (f : Frame) (index : Nat) (home : Option Nat) (name : Option Units) : Run Nat := do
  match ← codeOf index with
  | none => newObject
  | some node =>
    let ref ← alloc
      { proto := some (functionPrototypeOf node).ref
        kind := .closure
          { code := .function index, scope := f.scope, activation := f.activation, home := home }
        entries := functionEntries node.arity (name.getD node.name) }
    if node.isGenerator then
      let proto := if node.isAsync then Intrinsic.asyncGeneratorPrototype else .generatorPrototype
      let p ← newObject (some proto.ref)
      modifyObj ref fun o => o.put "prototype" (.data (.object p) true false false)
    else if node.kind == .plain && !node.isAsync then
      let p ← alloc
        { proto := some Intrinsic.objectPrototype.ref
          entries := #[("constructor", .builtin (.object ref))] }
      modifyObj ref fun o => o.put "prototype" (.data (.object p) true false false)
    return ref

/-- Define an accessor, keeping the other half of one that is there. -/
def defineAccessor (ref : Nat) (k : Key) (f : Value) (isGetter enumerable : Bool) : Run Unit := do
  let d : Descriptor :=
    { getter := if isGetter then some f else none
      setter := if isGetter then none else some f
      enumerable := some enumerable
      configurable := some true }
  let _ ← define ref k d true

/-- The private name that a class member is known by in a scope. -/
def hiddenKey (scope : Nat) (name : Units) : Run Key := do
  match ← readName? scope name with
  | some (.symbol id) => return .hidden id
  | _ => fail (.unreadable (.undefinedHidden name))

/-- Read a private member, which must be there. -/
def getHidden (v : Value) (k : Key) (name : Units) : Run Value := do
  match v with
  | .object ref =>
    match (← obj ref).find? k with
    | some (.data v _ _ _) => return v
    | some (.accessor g _ _ _) =>
      if g.isUndefined then fail (.hiddenMissing name) else call g v #[]
    | none => fail (.hiddenMissing name)
  | _ => fail .notAnObject

/-- Write a private member, which must be there. -/
def putHidden (v : Value) (k : Key) (name : Units) (x : Value) : Run Unit := do
  match v with
  | .object ref =>
    match (← obj ref).find? k with
    | some (.data _ true e c) => modifyObj ref fun o => o.put k (.data x true e c)
    | some (.data _ false _ _) => fail (.readOnly name)
    | some (.accessor _ s _ _) =>
      if s.isUndefined then fail .noSetter
      else
        let _ ← call s v #[x]
    | none => fail (.hiddenMissing name)
  | _ => fail .notAnObject

/-- Give a new object the fields of its class. -/
def initFields (this : Value) (function : Value) : Run Unit := do
  match function, this with
  | .object f, .object ref =>
    match ← kindOf f with
    | .closure c =>
      for plan in c.fields do
        match plan.value with
        | .fixed e => modifyObj ref fun o => o.put plan.key e
        | .computed fn =>
          let v ← match fn with
            | some fn => call fn this #[]
            | none => pure .undefined
          match plan.key with
          | .hidden id =>
            if ((← obj ref).find? plan.key).isSome then fail (.hiddenPresent (← symbolText id))
            else modifyObj ref fun o => o.put plan.key (.data v true false false)
          | k =>
            let _ ← define ref k (.ofEntry (.plain v)) true
    | _ => return
  | _, _ => return

/-- The value of `this` in a frame. -/
def thisOf (f : Frame) : Run Value := do
  match (← activation f.activation).this with
  | some v => return v
  | none => fail (.notInitialized "this")

/-- The object in which `super` looks for members. -/
def superBase (f : Frame) : Run Value := do
  match (← activation f.activation).home with
  | some h => match ← proto? h with
    | some p => return .object p
    | none => return .null
  | none => return .null

/-- Read a member of `super`. -/
def getSuper (f : Frame) (k : Key) : Run Value := do
  let this ← thisOf f
  match ← superBase f with
  | .object p => getFrom chainLimit p k this
  | other => get other k

/-- Call the constructor of the parent class and take its result as `this`. -/
def callSuper (f : Frame) (args : Array Value) : Run Value := do
  let a ← activation f.activation
  let parent ← match a.function with
    | .object ref => proto? ref
    | _ => pure none
  match parent with
  | none => fail .notAConstructor
  | some p =>
    if ← isConstructor (.object p) then
      let this ← construct (.object p) args a.newTarget
      if (← activation f.activation).this.isSome then fail .thisTwice
      else
        modify fun r => { r with
          activations := r.activations.modify f.activation fun a => { a with this := some this } }
        initFields this a.function
        return this
    else fail .notAConstructor

/-- The object with the texts of a tagged template, made once for each place. -/
def templateObject (site : Nat) (texts : List (Option Units × Units)) : Run Value := do
  match (← MonadState.get).templates.lookup site with
  | some ref => return .object ref
  | none =>
    let frozen (vs : List Value) : Obj :=
      { proto := some Intrinsic.arrayPrototype.ref
        extensible := false
        kind := .array #[] vs.length false
        entries := (vs.mapIdx fun i v => (Key.index i, Entry.data v false true false)).toArray }
    let raw ← alloc (frozen (texts.map fun t => .string t.2))
    let o := frozen (texts.map fun t => match t.1 with
      | some s => .string s
      | none => .undefined)
    let ref ← alloc { o with entries := o.entries.push ("raw", .data (.object raw) false false false) }
    modify fun r => { r with templates := (site, ref) :: r.templates }
    return .object ref

/-- Copy the enumerable properties of a value into an object, leaving some out. -/
def copyProperties (target : Nat) (source : Value) (except : List Key) : Run Unit := do
  if source.isNullish then return
  else
    let from_ ← toObject source
    for k in ← ownKeys from_ do
      if !except.contains k then
        if ← isEnumerable from_ k then
          let v ← get (.object from_) k
          defineValue target k v

end Run

end SnippetService.Script
