import SnippetService.Script.Evaluate.Call
/-!
How the standard objects are laid out. A plan lists what each of them offers; building the plans gives
the store that a script finds at its start and the table of the functions behind it.
-/
namespace SnippetService.Script.Library

/-- The body of a built-in function. -/
abbrev Action := NativeCall → Run Value

/-- Something that a standard object offers. -/
inductive Feature where
  | method (key : Key) (arity : Nat) (run : Action)
  | getter (key : Key) (run : Action)
  | accessor (key : Key) (read write : Action)
  | entry (key : Key) (e : Entry)
  /-- A function that fails when it is read or written. -/
  | forbidden (key : Key)

/-- A value that scripts may neither change nor list. -/
def Feature.constant (key : Key) (v : Value) : Feature := .entry key (.data v false false false)

/-- The name by which an object calls itself in texts. -/
def Feature.tag (name : String) : Feature :=
  .entry WellKnown.toStringTag.key (.data (.string name) false false true)

/-- One of the standard objects. -/
structure StandardObject where
  place : Intrinsic
  parent : Option Intrinsic := some .objectPrototype
  kind : Kind := .ordinary
  features : List Feature := []

/-- A constructor with its prototype. -/
structure StandardClass where
  name : String
  arity : Nat
  prototype : Option Intrinsic
  run : Action
  statics : List Feature := []
  /-- The name of the constructor it inherits from. -/
  parent : Option String := none
  constructs : Bool := true

/-- A function that has a place of its own among the standard objects. -/
structure StandardFunction where
  place : Intrinsic
  name : String
  arity : Nat
  run : Action

/-- What has been built so far. -/
structure Building where
  objects : Array Obj
  natives : Array Native := #[]
  /-- The constructors by name. -/
  constructors : List (String × Nat) := []

abbrev Build := StateM Building

namespace Build

/-- A function object for a new entry of the table. -/
def nativeObject (name : Units) (arity : Nat) (constructs : Bool) (run : Action) : Build Obj :=
  modifyGet fun b =>
    ({ proto := some Intrinsic.functionPrototype.ref
       kind := .native b.natives.size constructs #[]
       entries := #[("length", .data (.ofNat arity) false false true),
         ("name", .data (.string name) false false true)] },
      { b with natives := b.natives.push ⟨name, arity, constructs, run⟩ })

def alloc (o : Obj) : Build Nat :=
  modifyGet fun b => (b.objects.size, { b with objects := b.objects.push o })

def modifyObj (ref : Nat) (f : Obj → Obj) : Build Unit :=
  modify fun b => { b with objects := b.objects.modify ref f }

def function (name : Units) (arity : Nat) (constructs : Bool) (run : Action) : Build Nat := do
  alloc (← nativeObject name arity constructs run)

/-- The name of a function that stands under a key. -/
def nameOf (k : Key) : Units :=
  match k with
  | .symbol id => match WellKnown.all[id]? with
    | some w => ("[Symbol." ++ w.name ++ "]" : String)
    | none => {}
  | k => k.text?.getD {}

def feature (ref : Nat) (f : Feature) : Build Unit := do
  match f with
  | .method key arity run =>
    let fn ← function (nameOf key) arity false run
    modifyObj ref fun o => o.put key (.builtin (.object fn))
  | .getter key run =>
    let fn ← function ("get " ++ nameOf key) 0 false run
    modifyObj ref fun o => o.put key (.accessor (.object fn) .undefined false true)
  | .accessor key read write =>
    let g ← function ("get " ++ nameOf key) 0 false read
    let s ← function ("set " ++ nameOf key) 1 false write
    modifyObj ref fun o => o.put key (.accessor (.object g) (.object s) false true)
  | .entry key e => modifyObj ref fun o => o.put key e
  | .forbidden key =>
    let thrower := Intrinsic.throwTypeError.value
    modifyObj ref fun o => o.put key (.accessor thrower thrower false true)

def standardFunction (f : StandardFunction) : Build Unit := do
  let o ← nativeObject f.name f.arity false f.run
  modifyObj f.place.ref fun _ => o

def standardObject (s : StandardObject) : Build Unit := do
  modifyObj s.place.ref fun o => { o with proto := s.parent.map (·.ref), kind := s.kind }
  s.features.forM (feature s.place.ref)

def standardClass (c : StandardClass) : Build Unit := do
  let ref ← function c.name c.arity c.constructs c.run
  let known := (← get).constructors
  let parent := c.parent.bind fun name => known.lookup name
  match parent with
  | some p => modifyObj ref fun o => { o with proto := some p }
  | none => pure ()
  match c.prototype with
  | some p =>
    modifyObj ref fun o => o.put "prototype" (.data p.value false false false)
    modifyObj p.ref fun o => o.put "constructor" (.builtin (.object ref))
  | none => pure ()
  modifyObj Intrinsic.global.ref fun o => o.put c.name (.builtin (.object ref))
  modify fun b => { b with constructors := (c.name, ref) :: b.constructors }
  c.statics.forM (feature ref)

end Build

end SnippetService.Script.Library
