import SnippetService.Script.Library.ArrayMethods
/-!
Maps and sets. A deleted item leaves a gap, so that an iterator keeps its place; the order is that of
insertion.
-/
namespace SnippetService.Script.Library.CollectionMethods

open Run Evaluate

/-- How a collection is called. -/
def formName : CollectionForm → String
  | .map => "Map"
  | .set => "Set"
  | .weakMap => "WeakMap"
  | .weakSet => "WeakSet"

def prototypeOf : CollectionForm → Intrinsic
  | .map => .mapPrototype
  | .set => .setPrototype
  | .weakMap => .weakMapPrototype
  | .weakSet => .weakSetPrototype

def isMap : CollectionForm → Bool
  | .map | .weakMap => true
  | .set | .weakSet => false

def isWeak : CollectionForm → Bool
  | .weakMap | .weakSet => true
  | .map | .set => false

abbrev Items := Array (Option (Value × Value))

/-- The receiver's items, if it is a collection of the form. -/
def receiver (form : CollectionForm) (c : NativeCall) : Run (Nat × Items) := do
  match c.this with
  | .object ref =>
    match ← kindOf ref with
    | .collection f items =>
      if f == form then return (ref, items) else fail (.badReceiver (formName form))
    | _ => fail (.badReceiver (formName form))
  | _ => fail (.badReceiver (formName form))

def place? (items : Items) (k : Value) : Option Nat :=
  items.findIdx? fun item => match item with
    | some (key, _) => Value.sameZero key k
    | none => false

/-- Add an item or change its value. A zero key has no sign. -/
def insert (form : CollectionForm) (ref : Nat) (items : Items) (k v : Value) : Run Unit := do
  if isWeak form && !k.isObject then fail .notAnObject
  else
    let k := match k with
      | .number x => if x == 0.0 then .number 0.0 else .number x
      | k => k
    let items := match place? items k with
      | some i => items.set! i (some (k, v))
      | none => items.push (some (k, v))
    setKind ref (.collection form items)

def add (form : CollectionForm) : Action := fun c => do
  let (ref, items) ← receiver form c
  insert form ref items (c.arg 0) (if isMap form then c.arg 1 else c.arg 0)
  return c.this

def construct (form : CollectionForm) : Action := fun c => do
  if c.newTarget.isUndefined then fail .onlyConstructor
  else
    let p ← prototypeFor c.newTarget (prototypeOf form)
    let ref ← alloc { proto := some p, kind := .collection form #[] }
    if !(c.arg 0).isNullish then
      let adder ← get (.object ref) (if isMap form then "set" else "add")
      ArrayMethods.checkFunction adder
      let it ← iterator (c.arg 0)
      go (.object ref) adder it (← rounds)
    return .object ref
where
  go (target adder : Value) (it : Iterator) : Nat → Run Unit
    | 0 => halt .interrupted
    | fuel + 1 => do
      match ← iteratorStep it with
      | none => return
      | some v =>
        closing it do
          if isMap form then
            if !v.isObject then fail .notAnObject
            else
              let k ← get v (.index 0)
              let x ← get v (.index 1)
              let _ ← call adder target #[k, x]
          else
            let _ ← call adder target #[v]
        go target adder it fuel

def lookup (form : CollectionForm) : Action := fun c => do
  let (_, items) ← receiver form c
  match (place? items (c.arg 0)).bind fun i => items.getD i none with
  | some (_, v) => return v
  | none => return .undefined

def contains (form : CollectionForm) : Action := fun c => do
  let (_, items) ← receiver form c
  return .boolean (place? items (c.arg 0)).isSome

def delete (form : CollectionForm) : Action := fun c => do
  let (ref, items) ← receiver form c
  match place? items (c.arg 0) with
  | some i =>
    setKind ref (.collection form (items.set! i none))
    return .boolean true
  | none => return .boolean false

def clear (form : CollectionForm) : Action := fun c => do
  let (ref, items) ← receiver form c
  setKind ref (.collection form (items.map fun _ => none))
  return .undefined

def count (form : CollectionForm) : Action := fun c => do
  let (_, items) ← receiver form c
  return .ofNat (items.toList.filter (·.isSome)).length

def forEach (form : CollectionForm) : Action := fun c => do
  let (ref, _) ← receiver form c
  ArrayMethods.checkFunction (c.arg 0)
  go c ref (← rounds) 0
where
  go (c : NativeCall) (ref : Nat) : Nat → Nat → Run Value
    | 0, _ => halt .interrupted
    | fuel + 1, i => do
      match ← kindOf ref with
      | .collection _ items =>
        match items[i]? with
        | none => return .undefined
        | some none => go c ref fuel (i + 1)
        | some (some (k, v)) =>
          let _ ← call (c.arg 0) (c.arg 1) #[v, k, c.this]
          go c ref fuel (i + 1)
      | _ => return .undefined

def iteratorOf (form : CollectionForm) (what : IterationForm) : Action := fun c => do
  let (ref, _) ← receiver form c
  let proto := if isMap form then Intrinsic.mapIteratorPrototype else .setIteratorPrototype
  allocValue { proto := some proto.ref, kind := .collectionIterator (some ref) 0 what }

/-- The next item from a position on, with the position behind it. -/
def nextItem (items : Items) : Nat → Nat → Option ((Value × Value) × Nat)
  | 0, _ => none
  | fuel + 1, i =>
    match items[i]? with
    | none => none
    | some none => nextItem items fuel (i + 1)
    | some (some item) => some (item, i + 1)

def next : Action := fun c => do
  let ref ← objectArg c.this
  match ← kindOf ref with
  | .collectionIterator none _ _ => iterResult .undefined true
  | .collectionIterator (some target) i what =>
    match ← kindOf target with
    | .collection _ items =>
      match nextItem items (items.size + 1) i with
      | some ((k, v), next) =>
        setKind ref (.collectionIterator (some target) next what)
        match what with
        | .keys => iterResult k false
        | .values => iterResult v false
        | .entries => iterResult (← newArray #[k, v]) false
      | none =>
        setKind ref (.collectionIterator none 0 what)
        iterResult .undefined true
    | _ => iterResult .undefined true
  | _ => fail (.badReceiver "Map Iterator")

def standardClass (form : CollectionForm) : StandardClass where
  name := formName form
  arity := 0
  prototype := prototypeOf form
  run := construct form
  statics := if isWeak form then [] else [.getter WellKnown.species.key fun c => return c.this]

def features : CollectionForm → List Feature
  | .map =>
    [.method "set" 2 (add .map), .method "get" 1 (lookup .map), .method "has" 1 (contains .map),
     .method "delete" 1 (delete .map), .method "clear" 0 (clear .map),
     .getter "size" (count .map), .method "forEach" 1 (forEach .map),
     .method "values" 0 (iteratorOf .map .values), .method "keys" 0 (iteratorOf .map .keys),
     .method "entries" 0 (iteratorOf .map .entries),
     .method WellKnown.iterator.key 0 (iteratorOf .map .entries)]
  | .set =>
    [.method "add" 1 (add .set), .method "has" 1 (contains .set),
     .method "delete" 1 (delete .set), .method "clear" 0 (clear .set),
     .getter "size" (count .set), .method "forEach" 1 (forEach .set),
     .method "values" 0 (iteratorOf .set .values), .method "keys" 0 (iteratorOf .set .values),
     .method "entries" 0 (iteratorOf .set .entries),
     .method WellKnown.iterator.key 0 (iteratorOf .set .values)]
  | .weakMap =>
    [.method "set" 2 (add .weakMap), .method "get" 1 (lookup .weakMap),
     .method "has" 1 (contains .weakMap), .method "delete" 1 (delete .weakMap)]
  | .weakSet =>
    [.method "add" 1 (add .weakSet), .method "has" 1 (contains .weakSet),
     .method "delete" 1 (delete .weakSet)]

def prototype (form : CollectionForm) : StandardObject where
  place := prototypeOf form
  features := features form ++ [.tag (formName form)]

def forms : List CollectionForm := [.map, .set, .weakMap, .weakSet]

def mapIteratorPrototype : StandardObject where
  place := .mapIteratorPrototype
  parent := some .iteratorPrototype
  features := [.method "next" 0 next, .tag "Map Iterator"]

def setIteratorPrototype : StandardObject where
  place := .setIteratorPrototype
  parent := some .iteratorPrototype
  features := [.method "next" 0 next, .tag "Set Iterator"]

end SnippetService.Script.Library.CollectionMethods
