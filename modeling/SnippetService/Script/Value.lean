import SnippetService.Script.Tree
/-!
Values and the store they live in. Objects, scopes and activations are records in arrays and are
named by their index; what a value points to can be read only together with the store.
-/
namespace SnippetService.Script

inductive Value where
  | undefined
  | null
  | boolean (b : Bool)
  | number (x : Float)
  | string (s : Units)
  | symbol (id : Nat)
  | bigint (n : Int)
  | object (ref : Nat)
  deriving Inhabited

/-- The name of a property. Array indexes are kept apart from other names because they come first,
in ascending order, wherever properties are listed. Hidden names belong to one class. -/
inductive Key where
  | index (n : Nat)
  | name (text : Units)
  | symbol (id : Nat)
  | hidden (id : Nat)
  deriving DecidableEq, Inhabited

namespace Key

/-- The value of a run of digits, if it is one without a leading zero. -/
def decimal? : List UInt16 → Option Nat
  | [] => none
  | [48] => some 0
  | 48 :: _ => none
  | ds => ds.foldl (fun acc d => acc.bind fun n =>
      if 48 ≤ d && d ≤ 57 then some (n * 10 + (d.toNat - 48)) else none) (some 0)

/-- The greatest array index plus one. -/
def indexLimit : Nat := 4294967295

/-- The key a text names. -/
def ofUnits (s : Units) : Key :=
  let first := s.unit 0
  if s.size == 0 || 10 < s.size || first < 48 || 57 < first then .name s
  else match decimal? s.toList with
    | some n => if n < indexLimit then .index n else .name s
    | none => .name s

instance : Coe String Key := ⟨fun s => ofUnits s⟩

/-- The text of a key that has one. -/
def text? : Key → Option Units
  | .index n => some (toString n)
  | .name s => some s
  | _ => none

/-- The value of a key where a program sees it. -/
def toValue : Key → Value
  | .index n => .string (toString n)
  | .name s => .string s
  | .symbol id => .symbol id
  | .hidden id => .symbol id

end Key

/-- A property: a value with what may be done to it, or a pair of functions. -/
inductive Entry where
  | data (value : Value) (writable enumerable configurable : Bool)
  | accessor (getter setter : Value) (enumerable configurable : Bool)
  deriving Inhabited

namespace Entry

/-- A property as an assignment makes it. -/
def plain (v : Value) : Entry := .data v true true true

/-- A property as built-in objects have them: not listed, but open to change. -/
def builtin (v : Value) : Entry := .data v true false true

def enumerable : Entry → Bool
  | .data _ _ e _ => e
  | .accessor _ _ e _ => e

def configurable : Entry → Bool
  | .data _ _ _ c => c
  | .accessor _ _ _ c => c

end Entry

/-- What a closure runs. A class without a constructor of its own has a standard one. -/
inductive ClosureCode where
  | function (index : Nat)
  | standardConstructor (classIndex : Nat)

/-- How a field of a new object gets its value: from a function that computes it, or as it is. -/
inductive FieldValue where
  | computed (f : Option Value)
  | fixed (e : Entry)

/-- A field that a class gives to each new object. -/
structure FieldPlan where
  key : Key
  value : FieldValue

/-- A function together with the place it was created in. -/
structure Closure where
  code : ClosureCode
  scope : Nat
  /-- The activation whose `this` an arrow function shares. -/
  activation : Nat
  home : Option Nat := none
  isClass : Bool := false
  derived : Bool := false
  fields : Array FieldPlan := #[]

/-- What an iterator over a collection hands out. -/
inductive IterationForm where
  | keys | values | entries
  deriving DecidableEq

/-- How a part of a generator ended. -/
inductive PendingOutcome where
  | normal
  | breakTo (label : Option Units)
  | continueTo (label : Option Units)
  | returned (v : Value)
  | thrown (v : Value)

/-- What is done with the value that comes back from a `yield`. -/
inductive Received where
  | ignore
  | assign (target : Pattern)
  | declare (declarator : Declarator) (target : Pattern)
  | giveBack
  | raise
  /-- The value takes a name that the rest of the statement uses. -/
  | bind (name : Units)

inductive PromiseState where
  | pending
  | fulfilled (v : Value)
  | rejected (v : Value)

/-- Which collection an object is. -/
inductive CollectionForm where
  | map | set | weakMap | weakSet
  deriving DecidableEq

/-- A part of a generator's body that still has to run, innermost first. Each knows the scope it runs
in. -/
inductive Pending where
  /-- The rest of a block. -/
  | statements (scope : Nat) (body : List Stmt)
  /-- A loop to test again, after its step if the body has run. -/
  | loop (scope : Nat) (s : Stmt) (labels : List Units) (copies : Option Nat)
  /-- A loop over an iterator. -/
  | each (scope : Nat) (target : ForTarget) (iterator next : Value) (body : Stmt)
      (labels : List Units)
  /-- A handler for what the parts above throw. -/
  | handler (scope : Nat) (s : Stmt) (param : Option Pattern) (names : List LexicalName)
  /-- A last part, which runs however the parts above end. -/
  | last (scope : Nat) (s : Stmt)
  /-- What to go on with after a last part. -/
  | resume (outcome : PendingOutcome)
  | labelled (label : Units) (isLoop : Bool)
  | switchBody
  /-- What is done with the value that a `yield` gives. -/
  | receive (scope : Nat) (use : Received)
  /-- The values of a delegating `yield`. -/
  | delegate (iterator next : Value)

/-- How a generator's body goes on. -/
inductive GeneratorState where
  | fresh
  | suspended (pending : List Pending)
  | running
  | done

/-- What an object is beside its properties. -/
inductive Kind where
  | ordinary
  /-- The leading elements stand in an array of their own; later ones are properties. -/
  | array (elements : Array Value) (length : Nat) (lengthWritable : Bool)
  | closure (c : Closure)
  /-- A built-in function, by its place in the library, with values it was made for. -/
  | native (id : Nat) (constructs : Bool) (data : Array Value)
  | bound (target this : Value) (args : Array Value)
  | error
  | boolean (b : Bool)
  | number (x : Float)
  | string (s : Units)
  | symbol (id : Nat)
  | bigint (n : Int)
  | arguments
  | collection (form : CollectionForm) (items : Array (Option (Value × Value)))
  | promise (state : PromiseState)
  /-- A revoked proxy has neither target nor handler. -/
  | proxy (parts : Option (Nat × Nat)) (callable constructible : Bool)
  | regexp (source flags : Units)
  | date (time : Float)
  | arrayIterator (target : Value) (next : Nat) (form : IterationForm)
  | collectionIterator (target : Option Nat) (next : Nat) (form : IterationForm)
  | stringIterator (s : Units) (next : Nat)
  | generator (function : Nat) (scope activation : Nat) (state : GeneratorState)
  /-- The names a `for` … `in` loop walks over. -/
  | forIn (keys : List Key) (target : Nat)

structure Obj where
  proto : Option Nat := none
  extensible : Bool := true
  entries : Array (Key × Entry) := #[]
  kind : Kind := .ordinary

instance : Inhabited Obj := ⟨{}⟩

/-- A variable. Without a value it has been declared but not reached. -/
structure Binding where
  name : Units
  value : Option Value
  constant : Bool := false
  /-- Whether an assignment to a constant is ignored in code that is not strict. -/
  lenient : Bool := false
  deriving Inhabited

/-- What names in a scope mean. -/
inductive ScopeForm where
  | names
  /-- The properties of an object are names. -/
  | withObject (ref : Nat)
  | global

structure Scope where
  form : ScopeForm
  bindings : Array Binding
  parent : Nat

instance : Inhabited Scope := ⟨⟨.names, #[], 0⟩⟩

/-- A call of a function that is not an arrow. In a derived constructor `this` has no value until the
parent has been called. -/
structure Activation where
  this : Option Value
  function : Value
  newTarget : Value
  home : Option Nat

instance : Inhabited Activation := ⟨⟨none, .undefined, .undefined, none⟩⟩

/-- The store of one script context. -/
structure Realm where
  objects : Array Obj := #[]
  scopes : Array Scope := #[]
  activations : Array Activation := #[]
  /-- The descriptions of the symbols made so far. -/
  symbols : Array (Option Units) := #[]
  /-- Symbols shared by name. -/
  shared : List (Units × Nat) := []
  code : CodeTable := {}
  /-- The text objects of tagged templates, once made. -/
  templates : List (Nat × Nat) := []
  /-- How many more steps may run before the run is interrupted. -/
  budget : Nat := 0
  /-- The value of the last expression statement of the program that runs. -/
  completion : Value := .undefined
  randomState : UInt64 := 0x2545F4914F6CDD1D

/-- The standard objects, in the order in which they stand at the start of the store. -/
inductive Intrinsic where
  | objectPrototype | functionPrototype | global | arrayPrototype | errorPrototype
  | evalErrorPrototype | rangeErrorPrototype | referenceErrorPrototype | syntaxErrorPrototype
  | typeErrorPrototype | uriErrorPrototype | internalErrorPrototype | aggregateErrorPrototype
  | booleanPrototype | numberPrototype | stringPrototype | symbolPrototype | bigintPrototype
  | iteratorPrototype | arrayIteratorPrototype | stringIteratorPrototype | mapIteratorPrototype
  | setIteratorPrototype | generatorPrototype | generatorFunctionPrototype
  | asyncFunctionPrototype | mapPrototype | setPrototype | weakMapPrototype | weakSetPrototype
  | promisePrototype | regexpPrototype | datePrototype | regexpStringIteratorPrototype
  | asyncGeneratorPrototype | asyncGeneratorFunctionPrototype
  | math | json | reflect
  | evalFunction | throwTypeError | arrayValues
  | proxyRevoke | promiseResolve | promiseReject
  deriving DecidableEq

namespace Intrinsic

def ref (i : Intrinsic) : Nat := i.ctorIdx

def value (i : Intrinsic) : Value := .object i.ref

end Intrinsic

/-- The symbols that the language itself uses, in the order in which they stand in the store. -/
inductive WellKnown where
  | iterator | asyncIterator | hasInstance | toPrimitive | toStringTag | species
  | isConcatSpreadable | unscopables | match | matchAll | replace | search | split
  deriving DecidableEq

namespace WellKnown

def id (w : WellKnown) : Nat := w.ctorIdx

def key (w : WellKnown) : Key := .symbol w.id

/-- The last part of the description. -/
def name : WellKnown → String
  | iterator => "iterator"
  | asyncIterator => "asyncIterator"
  | hasInstance => "hasInstance"
  | toPrimitive => "toPrimitive"
  | toStringTag => "toStringTag"
  | species => "species"
  | isConcatSpreadable => "isConcatSpreadable"
  | unscopables => "unscopables"
  | «match» => "match"
  | matchAll => "matchAll"
  | replace => "replace"
  | search => "search"
  | split => "split"

def all : List WellKnown :=
  [iterator, asyncIterator, hasInstance, toPrimitive, toStringTag, species, isConcatSpreadable,
    unscopables, «match», matchAll, replace, search, split]

end WellKnown

end SnippetService.Script
