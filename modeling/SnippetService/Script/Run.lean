import SnippetService.Script.Value
import SnippetService.Script.Fault
/-!
Running code. A run threads the store and may stop early; the store as it was then is kept, so what a
script wrote before it was stopped can still be read. Calling a function is a parameter, which bounds
how deep calls nest.
-/
namespace SnippetService.Script

/-- Why a run stopped before its end. -/
inductive Halt where
  | thrown (v : Value)
  /-- The budget of steps is spent. -/
  | interrupted
  /-- An asynchronous function waits for a value. -/
  | suspended

/-- How functions are called: with `this` and arguments, or with arguments and the constructor that
`new` named; and how a text is run as a program of its own. -/
structure Calls where
  call : Value → Value → Array Value → EStateM Halt Realm Value
  construct : Value → Array Value → Value → EStateM Halt Realm Value
  program : Units → EStateM Halt Realm Value

abbrev Run := ReaderT Calls (EStateM Halt Realm)

namespace Run

def halt {α : Type} (h : Halt) : Run α := throw h

def throwValue {α : Type} (v : Value) : Run α := throw (.thrown v)

def call (f this : Value) (args : Array Value) : Run Value := fun c => c.call f this args

def construct (f : Value) (args : Array Value) (newTarget : Value) : Run Value :=
  fun c => c.construct f args newTarget

/-- Run a text as a program of its own, with the global object for its variables. -/
def program (text : Units) : Run Value := fun c => c.program text

/-- Use up one step. -/
def step : Run Unit := do
  let r ← get
  match r.budget with
  | 0 => halt .interrupted
  | n + 1 => set { r with budget := n }

def alloc (o : Obj) : Run Nat :=
  modifyGet fun r => (r.objects.size, { r with objects := r.objects.push o })

def allocValue (o : Obj) : Run Value := return .object (← alloc o)

def obj (ref : Nat) : Run Obj := return (← get).objects.getD ref {}

def kindOf (ref : Nat) : Run Kind := return (← obj ref).kind

def modifyObj (ref : Nat) (f : Obj → Obj) : Run Unit :=
  modify fun r => { r with objects := r.objects.modify ref f }

def setKind (ref : Nat) (k : Kind) : Run Unit := modifyObj ref fun o => { o with kind := k }

def newScope (form : ScopeForm) (bindings : Array Binding) (parent : Nat) : Run Nat :=
  modifyGet fun r => (r.scopes.size, { r with scopes := r.scopes.push ⟨form, bindings, parent⟩ })

def newActivation (a : Activation) : Run Nat :=
  modifyGet fun r => (r.activations.size, { r with activations := r.activations.push a })

def activation (id : Nat) : Run Activation := return (← get).activations.getD id default

/-- A new symbol. -/
def newSymbol (description : Option Units) : Run Nat :=
  modifyGet fun r => (r.symbols.size, { r with symbols := r.symbols.push description })

/-- The description of a symbol, empty if it has none. -/
def symbolText (id : Nat) : Run Units := return ((← get).symbols.getD id none).getD {}

/-- An object with a given prototype and no properties. -/
def newObject (proto : Option Nat := some Intrinsic.objectPrototype.ref) : Run Nat :=
  alloc { proto := proto }

/-- An array of some values. -/
def newArray (elements : Array Value) : Run Value :=
  allocValue
    { proto := some Intrinsic.arrayPrototype.ref
      kind := .array elements elements.size true }

/-- The prototype of the errors of a class. -/
def errorPrototype : ErrorClass → Intrinsic
  | .error => .errorPrototype
  | .evalError => .evalErrorPrototype
  | .rangeError => .rangeErrorPrototype
  | .referenceError => .referenceErrorPrototype
  | .syntaxError => .syntaxErrorPrototype
  | .typeError => .typeErrorPrototype
  | .uriError => .uriErrorPrototype
  | .internalError => .internalErrorPrototype
  | .aggregateError => .aggregateErrorPrototype

/-- Where an error arose, as the error object tells it. -/
def stackText : Units := "    at <eval> (<input>)\n"

/-- A new error object. -/
def newError (c : ErrorClass) (message : Units) : Run Value :=
  allocValue
    { proto := some (errorPrototype c).ref
      kind := .error
      entries := #[("message", .builtin (.string message)), ("stack", .builtin (.string stackText))] }

/-- Stop because the language forbids what was asked. -/
def fail {α : Type} (fault : Fault) : Run α := do
  let e ← newError fault.errorClass fault.message
  throwValue e

/-- Run, and hand a thrown value to a handler; other stops pass. -/
def catching {α : Type} (r : Run α) (handler : Value → Run α) : Run α := fun c s =>
  match r c s with
  | .ok a s => .ok a s
  | .error (.thrown v) s => handler v c s
  | .error h s => .error h s

/-- Run, and give a thrown value as a result. -/
def attempt {α : Type} (r : Run α) : Run (Except Value α) :=
  catching (do return .ok (← r)) fun v => return .error v

/-- The text of a key in messages. -/
def keyText (k : Key) : Run Units := do
  match k with
  | .symbol id | .hidden id => symbolText id
  | .index n => return toString n
  | .name s => return s

end Run

end SnippetService.Script
