import SnippetService.Script.Library.PrimitiveMethods
/-!
The constructor `Array` and what arrays inherit. The methods work on any object with a length; a place
without an element is skipped where the language says so.
-/
namespace SnippetService.Script.Library

open Run Evaluate

namespace ArrayMethods

/-- The receiver as an object, with its length. -/
def receiver (c : NativeCall) : Run (Nat × Nat) := do
  let ref ← toObject c.this
  return (ref, ← lengthOf (.object ref))

def item (ref i : Nat) : Run Value := get (.object ref) (indexKey i)
where
  indexKey (i : Nat) : Key := if i < Key.indexLimit then .index i else .ofUnits (toString i)

def setItem (ref i : Nat) (v : Value) : Run Unit := put (.object ref) (item.indexKey i) v true

def hasItem (ref i : Nat) : Run Bool := has ref (item.indexKey i)

def removeItem (ref i : Nat) : Run Unit := do
  let _ ← deleteProperty (.object ref) (item.indexKey i) true

def setLength (ref n : Nat) : Run Unit := put (.object ref) "length" (.ofNat n) true

/-- Copy an element to another place, or clear that place if there is none. -/
def moveItem (ref source target : Nat) : Run Unit := do
  if ← hasItem ref source then setItem ref target (← item ref source)
  else removeItem ref target

/-- Do something for the numbers from `i` on. -/
def upTo (f : Nat → Run Unit) : Nat → Nat → Run Unit
  | 0, _ => return
  | n + 1, i => do
    step
    f i
    upTo f n (i + 1)

/-- Do something for the numbers below `n`, the greatest first. -/
def downFrom (f : Nat → Run Unit) : Nat → Run Unit
  | 0 => return
  | n + 1 => do
    step
    f n
    downFrom f n

/-- The first result that a number from `i` on gives. -/
def firstOf {α : Type} (f : Nat → Run (Option α)) : Nat → Nat → Run (Option α)
  | 0, _ => return none
  | n + 1, i => do
    step
    match ← f i with
    | some a => return some a
    | none => firstOf f n (i + 1)

/-- The first result that a number below `n` gives, the greatest first. -/
def lastOf {α : Type} (f : Nat → Run (Option α)) : Nat → Run (Option α)
  | 0 => return none
  | n + 1 => do
    step
    match ← f n with
    | some a => return some a
    | none => lastOf f n

/-- The array that a method makes: one of the receiver's own class. -/
def speciesArray (ref length : Nat) : Run Nat := do
  let standard : Run Nat := do
    if Key.indexLimit < length + 1 then fail .invalidArrayLength
    else
      let v ← newArray #[]
      let ref ← objectArg v
      if 0 < length then setLength ref length
      return ref
  if !(← isArray (.object ref)) then standard
  else
    let ctor ← get (.object ref) "constructor"
    let ctor ← if ctor.isObject then do
        let s ← get ctor WellKnown.species.key
        pure (if s.isNullish then .undefined else s)
      else pure ctor
    if ctor.isUndefined then standard
    else if ← isConstructor ctor then objectArg (← construct ctor #[.ofNat length] ctor)
    else fail .notAConstructor

def defineItem (ref i : Nat) (v : Value) : Run Unit := defineValue ref (item.indexKey i) v

def checkFunction (v : Value) : Run Unit := do
  if !(← isCallable v) then fail .notAFunction

def constructArray : Action := fun c => do
  let proto ← ErrorMethods.prototypeOfCall c .arrayPrototype
  let make (vs : Array Value) (length : Nat) : Run Value :=
    allocValue { proto := some proto, kind := .array vs length true }
  match c.args with
  | #[.number x] =>
    let n := NumberText.toUint32 x
    if Float.ofNat n == x then make #[] n else fail .invalidArrayLength
  | args => make args args.size

/-- A new object for elements, by the constructor that a static method is called on. -/
def makeFor (ctor : Value) (args : Array Value) : Run Nat := do
  if ← isConstructor ctor then objectArg (← construct ctor args ctor)
  else objectArg (← newArray #[])

def of : Action := fun c => do
  let ref ← makeFor c.this #[.ofNat c.args.size]
  upTo (fun i => defineItem ref i (c.arg i)) c.args.size 0
  setLength ref c.args.size
  return .object ref

def fromValues : Action := fun c => do
  let items := c.arg 0
  let mapFn := c.arg 1
  if !mapFn.isUndefined then checkFunction mapFn
  let mapped (v : Value) (i : Nat) : Run Value := do
    if mapFn.isUndefined then return v else call mapFn (c.arg 2) #[v, .ofNat i]
  let method ← get items WellKnown.iterator.key
  if method.isNullish then
    let source ← toObject items
    let n ← lengthOf (.object source)
    let ref ← makeFor c.this #[.ofNat n]
    upTo (fun i => do defineItem ref i (← mapped (← item source i) i)) n 0
    setLength ref n
    return .object ref
  else
    let ref ← makeFor c.this #[]
    let it ← iteratorBy items method
    let n ← go ref it mapped (← rounds) 0
    setLength ref n
    return .object ref
where
  go (ref : Nat) (it : Iterator) (mapped : Value → Nat → Run Value) : Nat → Nat → Run Nat
    | 0, _ => halt .interrupted
    | fuel + 1, i => do
      match ← iteratorStep it with
      | none => return i
      | some v =>
        closing it do defineItem ref i (← mapped v i)
        go ref it mapped fuel (i + 1)

/-- Call the callback for an element. -/
def callback (c : NativeCall) (ref i : Nat) (v : Value) : Run Value :=
  call (c.arg 0) (c.arg 1) #[v, .ofNat i, .object ref]

/-- The elements there are, with the callback's answers, until one of them decides. -/
def search {α : Type} (c : NativeCall) (decide : Nat → Value → Value → Run (Option α)) :
    Run (Option α) := do
  let (ref, n) ← receiver c
  checkFunction (c.arg 0)
  firstOf (fun i => do
    if ← hasItem ref i then
      let v ← item ref i
      decide i v (← callback c ref i v)
    else return none) n 0

def every : Action := fun c => do
  let r ← search c fun _ _ answer => return if answer.truthy then none else some ()
  return .boolean r.isNone

def some_ : Action := fun c => do
  let r ← search c fun _ _ answer => return if answer.truthy then some () else none
  return .boolean r.isSome

def forEach : Action := fun c => do
  let _ ← search (α := Unit) c fun _ _ _ => return none
  return .undefined

def map : Action := fun c => do
  let (ref, n) ← receiver c
  checkFunction (c.arg 0)
  let made ← speciesArray ref n
  upTo (fun i => do
    if ← hasItem ref i then
      defineItem made i (← callback c ref i (← item ref i))) n 0
  return .object made

def filter : Action := fun c => do
  let (ref, n) ← receiver c
  checkFunction (c.arg 0)
  let made ← speciesArray ref 0
  let _ ← go c ref made n 0 0
  return .object made
where
  go (c : NativeCall) (ref made : Nat) : Nat → Nat → Nat → Run Unit
    | 0, _, _ => return
    | n + 1, i, count => do
      step
      if ← hasItem ref i then
        let v ← item ref i
        if (← callback c ref i v).truthy then
          defineItem made count v
          go c ref made n (i + 1) (count + 1)
        else go c ref made n (i + 1) count
      else go c ref made n (i + 1) count

/-- The first or last element that the callback accepts, with its place; places without an element
count as `undefined`. -/
def find (fromEnd : Bool) (c : NativeCall) : Run (Option (Nat × Value)) := do
  let (ref, n) ← receiver c
  checkFunction (c.arg 0)
  let test (i : Nat) : Run (Option (Nat × Value)) := do
    let v ← item ref i
    return if (← callback c ref i v).truthy then some (i, v) else none
  if fromEnd then lastOf test n else firstOf test n 0

def reduce (fromEnd : Bool) : Action := fun c => do
  let (ref, n) ← receiver c
  checkFunction (c.arg 0)
  let place (i : Nat) : Nat := if fromEnd then n - 1 - i else i
  let (start, first) ← if 2 ≤ c.args.size then pure (0, c.arg 1) else
    match ← firstOf (fun i => do
        if ← hasItem ref (place i) then return some i else return none) n 0 with
    | some i => pure (i + 1, ← item ref (place i))
    | none => fail .emptyArray
  go c ref place (n - start) start first
where
  go (c : NativeCall) (ref : Nat) (place : Nat → Nat) : Nat → Nat → Value → Run Value
    | 0, _, acc => return acc
    | n + 1, i, acc => do
      step
      let acc ← if ← hasItem ref (place i) then
          call (c.arg 0) .undefined #[acc, ← item ref (place i), .ofNat (place i), .object ref]
        else pure acc
      go c ref place n (i + 1) acc

def includes : Action := fun c => do
  let (ref, n) ← receiver c
  let start ← relativeIndex (c.arg 1) n
  let r ← firstOf (fun i => do
    return if Value.sameZero (c.arg 0) (← item ref i) then some () else none) (n - start) start
  return .boolean r.isSome

def indexResult (r : Option Nat) : Value :=
  match r with
  | some i => .ofNat i
  | none => .number (-1.0)

def indexOf : Action := fun c => do
  let (ref, n) ← receiver c
  let start ← relativeIndex (c.arg 1) n
  let r ← firstOf (fun i => do
    if ← hasItem ref i then
      return if Value.strictEq (c.arg 0) (← item ref i) then some i else none
    else return none) (n - start) start
  return indexResult r

def lastIndexOf : Action := fun c => do
  let (ref, n) ← receiver c
  let last : Int ← if 2 ≤ c.args.size then do
      let k ← toInteger (c.arg 1)
      pure (if k < 0 then k + n else min k (n - 1))
    else pure ((n : Int) - 1)
  let r ← lastOf (fun i => do
    if ← hasItem ref i then
      return if Value.strictEq (c.arg 0) (← item ref i) then some i else none
    else return none) (last + 1).toNat
  return indexResult r

def push : Action := fun c => do
  let (ref, n) ← receiver c
  upTo (fun i => setItem ref (n + i) (c.arg i)) c.args.size 0
  setLength ref (n + c.args.size)
  return .ofNat (n + c.args.size)

def pop : Action := fun c => do
  let (ref, n) ← receiver c
  match n with
  | 0 =>
    setLength ref 0
    return .undefined
  | n + 1 =>
    let v ← item ref n
    removeItem ref n
    setLength ref n
    return v

def shift : Action := fun c => do
  let (ref, n) ← receiver c
  match n with
  | 0 =>
    setLength ref 0
    return .undefined
  | n + 1 =>
    let v ← item ref 0
    upTo (fun i => moveItem ref (i + 1) i) n 0
    removeItem ref n
    setLength ref n
    return v

def unshift : Action := fun c => do
  let (ref, n) ← receiver c
  let count := c.args.size
  if 0 < count then
    downFrom (fun i => moveItem ref i (i + count)) n
    upTo (fun i => setItem ref i (c.arg i)) count 0
  setLength ref (n + count)
  return .ofNat (n + count)

def reverse : Action := fun c => do
  let (ref, n) ← receiver c
  upTo (fun i => do
    let j := n - 1 - i
    let low ← if ← hasItem ref i then pure (some (← item ref i)) else pure none
    let high ← if ← hasItem ref j then pure (some (← item ref j)) else pure none
    match high with
    | some v => setItem ref i v
    | none => removeItem ref i
    match low with
    | some v => setItem ref j v
    | none => removeItem ref j) (n / 2) 0
  return .object ref

def fill : Action := fun c => do
  let (ref, n) ← receiver c
  let start ← relativeIndex (c.arg 1) n
  let stop ← if (c.arg 2).isUndefined then pure n else relativeIndex (c.arg 2) n
  upTo (fun i => setItem ref i (c.arg 0)) (stop - start) start
  return .object ref

def copyWithin : Action := fun c => do
  let (ref, n) ← receiver c
  let target ← relativeIndex (c.arg 0) n
  let start ← relativeIndex (c.arg 1) n
  let stop ← if (c.arg 2).isUndefined then pure n else relativeIndex (c.arg 2) n
  let count := min (stop - start) (n - target)
  if start < target && target < start + count then
    downFrom (fun i => moveItem ref (start + i) (target + i)) count
  else upTo (fun i => moveItem ref (start + i) (target + i)) count 0
  return .object ref

/-- Copy a run of elements into an array. -/
def copyRun (source start count target : Nat) : Run Unit :=
  upTo (fun i => do
    if ← hasItem source (start + i) then defineItem target i (← item source (start + i))) count 0

def slice : Action := fun c => do
  let (ref, n) ← receiver c
  let start ← relativeIndex (c.arg 0) n
  let stop ← if (c.arg 1).isUndefined then pure n else relativeIndex (c.arg 1) n
  let count := stop - start
  let made ← speciesArray ref count
  copyRun ref start count made
  setLength made count
  return .object made

def splice : Action := fun c => do
  let (ref, n) ← receiver c
  let start ← relativeIndex (c.arg 0) n
  let count ← match c.args.size with
    | 0 => pure 0
    | 1 => pure (n - start)
    | _ => pure (min (clamp (← toInteger (c.arg 1)) n) (n - start))
  let added := c.args.extract 2 c.args.size
  let made ← speciesArray ref count
  copyRun ref start count made
  setLength made count
  let size := n - count + added.size
  let tail := n - start - count
  if added.size < count then
    upTo (fun i => moveItem ref (start + count + i) (start + added.size + i)) tail 0
    downFrom (fun i => removeItem ref (size + i)) (n - size)
  else if count < added.size then
    downFrom (fun i => moveItem ref (start + count + i) (start + added.size + i)) tail
  upTo (fun i => setItem ref (start + i) (added.getD i .undefined)) added.size 0
  setLength ref size
  return .object made

/-- Whether an object stands for its elements where arrays are joined. -/
def isSpreadable (v : Value) : Run Bool := do
  match v with
  | .object _ =>
    match ← get v WellKnown.isConcatSpreadable.key with
    | .undefined => isArray v
    | flag => return flag.truthy
  | _ => return false

def concat : Action := fun c => do
  let ref ← toObject c.this
  let made ← speciesArray ref 0
  let n ← go made (.object ref :: c.args.toList) 0
  setLength made n
  return .object made
where
  go (made : Nat) : List Value → Nat → Run Nat
    | [], n => return n
    | v :: rest, n => do
      if ← isSpreadable v then
        let source ← objectArg v
        let count ← lengthOf v
        upTo (fun i => do
          if ← hasItem source i then defineItem made (n + i) (← item source i)) count 0
        go made rest (n + count)
      else
        defineItem made n v
        go made rest (n + 1)

/-- The elements' texts with a separator between them; missing ones are empty. -/
def joinTexts (ref n : Nat) (separator : Units) (text : Value → Run Units) : Run Units := do
  go ref separator text n 0 {}
where
  go (ref : Nat) (separator : Units) (text : Value → Run Units) :
      Nat → Nat → Units → Run Units
    | 0, _, found => return found
    | n + 1, i, found => do
      step
      let v ← item ref i
      let s ← if v.isNullish then pure {} else text v
      go ref separator text n (i + 1) (if i == 0 then s else found ++ separator ++ s)

def join : Action := fun c => do
  let (ref, n) ← receiver c
  let separator ← if (c.arg 0).isUndefined then pure ("," : Units) else toText (c.arg 0)
  return .string (← joinTexts ref n separator toText)

def toString : Action := fun c => do
  let ref ← toObject c.this
  let f ← get (.object ref) "join"
  if ← isCallable f then call f (.object ref) #[]
  else ObjectMethods.toString { c with this := .object ref }

def toLocaleString : Action := fun c => do
  let (ref, n) ← receiver c
  return .string (← joinTexts ref n "," fun v => do toText (← invoke v "toLocaleString" #[]))

/-- The elements of nested arrays, down to a depth. -/
def flattened : Nat → Nat → List Value → Run (List Value)
  | 0, _, _ => fail .stackOverflow
  | fuel + 1, depth, vs => do
    let parts ← vs.mapM fun v => do
      match v, depth with
      | .object ref, depth + 1 =>
        if ← isArray v then flattened fuel depth (← present ref) else return [v]
      | _, _ => return [v]
    return parts.flatten
where
  present (ref : Nat) : Run (List Value) := do
    let n ← lengthOf (.object ref)
    let places ← (List.range n).filterM (hasItem ref)
    places.mapM (item ref)

def flat : Action := fun c => do
  let (ref, _) ← receiver c
  let depth ← if (c.arg 0).isUndefined then pure 1 else toInteger (c.arg 0)
  let made ← speciesArray ref 0
  let vs ← flattened chainLimit (min depth.toNat 1000) (← flattened.present ref)
  upTo (fun i => defineItem made i (vs.toArray.getD i .undefined)) vs.length 0
  return .object made

def flatMap : Action := fun c => do
  let (ref, n) ← receiver c
  checkFunction (c.arg 0)
  let places ← (List.range n).filterM (hasItem ref)
  let answers ← places.mapM fun i => do callback c ref i (← item ref i)
  let made ← speciesArray ref 0
  let vs := (← flattened chainLimit 1 answers).toArray
  upTo (fun i => defineItem made i (vs.getD i .undefined)) vs.size 0
  return .object made

/-- Merge two sorted lists; of equal elements those of the first list come first. -/
def merge (less : Value → Value → Run Bool) : Nat → List Value → List Value → List Value →
    Run (List Value)
  | 0, xs, ys, found => return found.reverse ++ xs ++ ys
  | _, [], ys, found => return found.reverse ++ ys
  | _, xs, [], found => return found.reverse ++ xs
  | fuel + 1, x :: xs, y :: ys, found => do
    step
    if ← less y x then merge less fuel (x :: xs) ys (y :: found)
    else merge less fuel xs (y :: ys) (x :: found)

def sorted (less : Value → Value → Run Bool) : Nat → List Value → Run (List Value)
  | 0, vs => return vs
  | _, [] => return []
  | _, [v] => return [v]
  | fuel + 1, vs => do
    let half := vs.length / 2
    let xs ← sorted less fuel (vs.take half)
    let ys ← sorted less fuel (vs.drop half)
    merge less (vs.length + 1) xs ys []

/-- Sort the elements: undefined ones come last, and places without an element after them. -/
def sort : Action := fun c => do
  if !(c.arg 0).isUndefined then checkFunction (c.arg 0)
  let (ref, n) ← receiver c
  let places ← (List.range n).filterM (hasItem ref)
  let vs ← places.mapM (item ref)
  let defined := vs.filter fun v => !v.isUndefined
  let missing := vs.length - defined.length
  let less (a b : Value) : Run Bool := do
    if (c.arg 0).isUndefined then
      let s ← toText a
      return s.lt (← toText b)
    else
      let x ← toNumber (← call (c.arg 0) .undefined #[a, b])
      return x < 0.0
  let result := (← sorted less (n.log2 + 2) defined) ++ List.replicate missing .undefined
  let result := result.toArray
  upTo (fun i => setItem ref i (result.getD i .undefined)) result.size 0
  upTo (fun i => removeItem ref i) (n - result.size) result.size
  return .object ref

def iteratorOf (form : IterationForm) : Action := fun c => do
  let ref ← toObject c.this
  allocValue
    { proto := some Intrinsic.arrayIteratorPrototype.ref
      kind := .arrayIterator (.object ref) 0 form }

/-- The next result of an iterator over an array. -/
def next : Action := fun c => do
  let ref ← objectArg c.this
  match ← kindOf ref with
  | .arrayIterator .undefined _ _ => iterResult .undefined true
  | .arrayIterator target i form =>
    if i < (← lengthOf target) then
      setKind ref (.arrayIterator target (i + 1) form)
      match form with
      | .keys => iterResult (.ofNat i) false
      | .values => iterResult (← get target (item.indexKey i)) false
      | .entries => iterResult (← newArray #[.ofNat i, ← get target (item.indexKey i)]) false
    else
      setKind ref (.arrayIterator .undefined 0 form)
      iterResult .undefined true
  | _ => fail (.badReceiver "Array Iterator")

def valuesFunction : StandardFunction where
  place := .arrayValues
  name := "values"
  arity := 0
  run := iteratorOf .values

def standardClass : StandardClass where
  name := "Array"
  arity := 1
  prototype := some .arrayPrototype
  run := constructArray
  statics :=
    [.method "isArray" 1 fun c => return .boolean (← isArray (c.arg 0)),
     .method "from" 1 fromValues,
     .method "of" 0 of,
     .getter WellKnown.species.key fun c => return c.this]

def prototype : StandardObject where
  place := .arrayPrototype
  kind := .array #[] 0 true
  features :=
    [.method "concat" 1 concat,
     .method "every" 1 every,
     .method "some" 1 some_,
     .method "forEach" 1 forEach,
     .method "map" 1 map,
     .method "filter" 1 filter,
     .method "reduce" 1 (reduce false),
     .method "reduceRight" 1 (reduce true),
     .method "fill" 1 fill,
     .method "find" 1 fun c => return ((← find false c).map (·.2)).getD .undefined,
     .method "findIndex" 1 fun c => return indexResult ((← find false c).map (·.1)),
     .method "indexOf" 1 indexOf,
     .method "lastIndexOf" 1 lastIndexOf,
     .method "includes" 1 includes,
     .method "join" 1 join,
     .method "toString" 0 toString,
     .method "toLocaleString" 0 toLocaleString,
     .method "pop" 0 pop,
     .method "push" 1 push,
     .method "shift" 0 shift,
     .method "unshift" 1 unshift,
     .method "reverse" 0 reverse,
     .method "sort" 1 sort,
     .method "slice" 2 slice,
     .method "splice" 2 splice,
     .method "copyWithin" 2 copyWithin,
     .method "flatMap" 1 flatMap,
     .method "flat" 0 flat,
     .entry "values" (.builtin Intrinsic.arrayValues.value),
     .entry WellKnown.iterator.key (.builtin Intrinsic.arrayValues.value),
     .method "keys" 0 (iteratorOf .keys),
     .method "entries" 0 (iteratorOf .entries)]

def iteratorPrototype : StandardObject where
  place := .arrayIteratorPrototype
  parent := some .iteratorPrototype
  features := [.method "next" 0 next, .tag "Array Iterator"]

end ArrayMethods

/-- What all iterators inherit. -/
def iteratorPrototype : StandardObject where
  place := .iteratorPrototype
  features := [.method WellKnown.iterator.key 0 fun c => return c.this]

end SnippetService.Script.Library
