import SnippetService.Script.Convert
/-!
The protocol of iterators: asking for one, stepping it, and closing it early.
-/
namespace SnippetService.Script.Run

/-- An iterator with its `next` method. -/
structure Iterator where
  value : Value
  next : Value

/-- Ask a value for its iterator by a given method. -/
def iteratorBy (v method : Value) : Run Iterator := do
  let it ← call method v #[]
  if it.isObject then return ⟨it, ← get it "next"⟩
  else fail .notAnObject

/-- Ask a value for its iterator. -/
def iterator (v : Value) : Run Iterator := do
  let method ← get v WellKnown.iterator.key
  if ← isCallable method then iteratorBy v method
  else fail .notIterable

/-- The next value of an iterator, if there is one. -/
def iteratorStep (it : Iterator) : Run (Option Value) := do
  step
  let result ← call it.next it.value #[]
  if !result.isObject then fail (.proxyFailed "iterator must return an object")
  else if (← get result "done").truthy then return none
  else return some (← get result "value")

/-- Tell an iterator that no more values are wanted. -/
def iteratorClose (it : Iterator) : Run Unit := do
  match ← getMethod it.value "return" with
  | none => return
  | some f =>
    let result ← call f it.value #[]
    if result.isObject then return else fail .notAnObject

/-- Run with an iterator open; if that throws, the iterator is closed, and what closing throws does not
matter. -/
def closing {α : Type} (it : Iterator) (r : Run α) : Run α :=
  catching r fun v => do
    let _ ← attempt (iteratorClose it)
    throwValue v

def collect (it : Iterator) : Nat → Array Value → Run (Array Value)
  | 0, _ => halt .interrupted
  | fuel + 1, found => do
    match ← iteratorStep it with
    | none => return found
    | some v => collect it fuel (found.push v)

/-- A bound on the rounds of a loop each of which uses up a step. -/
def rounds : Run Nat := return (← MonadState.get).budget + 2

/-- All values of an iterable. -/
def iterate (v : Value) : Run (Array Value) := do
  let it ← iterator v
  collect it (← rounds) #[]

/-- The result object of an iterator's step. -/
def iterResult (v : Value) (done : Bool) : Run Value := do
  allocValue
    { proto := some Intrinsic.objectPrototype.ref
      entries := #[("value", .plain v), ("done", .plain (.boolean done))] }

/-- The elements of an array-like object. -/
def elementsOf (v : Value) : Run (Array Value) := do
  match v with
  | .object _ =>
    let n ← lengthOf v
    go v n 0 #[]
  | _ => fail .notAnObject
where
  go (v : Value) : Nat → Nat → Array Value → Run (Array Value)
    | 0, _, found => return found
    | n + 1, i, found => do
      if i % 1000 == 999 then step
      let x ← get v (.index i)
      go v n (i + 1) (found.push x)

end SnippetService.Script.Run
