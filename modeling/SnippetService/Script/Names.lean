import SnippetService.Script.Convert
/-!
Names and the scopes that give them meaning. A name is looked up from the innermost scope outwards
and ends at the properties of the global object.
-/
namespace SnippetService.Script.Run

/-- Where a name was found. -/
inductive Place where
  | binding (scope index : Nat) (b : Binding)
  | object (ref : Nat)
  | global

/-- Find the scope that gives a name its meaning. -/
def resolve : Nat → Nat → Units → Run Place
  | 0, _, _ => return .global
  | fuel + 1, id, name => do
    let s := (← MonadState.get).scopes.getD id default
    match s.form with
    | .global => return .global
    | .withObject ref =>
      if ← has ref (Key.ofUnits name) then return .object ref
      else resolve fuel s.parent name
    | .names =>
      match s.bindings.findIdx? fun b => b.name == name with
      | some i => return .binding id i (s.bindings.getD i default)
      | none => resolve fuel s.parent name

def find (scope : Nat) (name : Units) : Run Place := do
  resolve ((← MonadState.get).scopes.size + 1) scope name

/-- The value of a name, if the name means anything. -/
def readName? (scope : Nat) (name : Units) : Run (Option Value) := do
  match ← find scope name with
  | .binding _ _ b =>
    match b.value with
    | some v => return some v
    | none => fail (.notInitialized name)
  | .object ref => return some (← get (.object ref) (Key.ofUnits name))
  | .global =>
    let k := Key.ofUnits name
    let g := Intrinsic.global.ref
    match (← obj g).own? k with
    | some (.data v _ _ _) => return some v
    | _ =>
      if ← has g k then return some (← get (.object g) k)
      else return none

def readName (scope : Nat) (name : Units) : Run Value := do
  match ← readName? scope name with
  | some v => return v
  | none => fail (.notDefined name)

/-- Store into a binding. -/
def setBinding (scope index : Nat) (v : Value) : Run Unit :=
  modify fun r => { r with
    scopes := r.scopes.modify scope fun s => { s with
      bindings := s.bindings.modify index fun b => { b with value := some v } } }

/-- Assign to a name. -/
def writeName (scope : Nat) (name : Units) (v : Value) (strict : Bool) : Run Unit := do
  match ← find scope name with
  | .binding id i b =>
    if b.value.isNone then fail (.notInitialized name)
    else if b.constant then
      if b.lenient && !strict then return else fail (.readOnly name)
    else setBinding id i v
  | .object ref => put (.object ref) (Key.ofUnits name) v strict
  | .global =>
    let g := Intrinsic.global.ref
    let k := Key.ofUnits name
    if strict && !(← has g k) then fail (.notDefined name)
    else put (.object g) k v strict

/-- Give a declared name of a scope its first value, or declare it. -/
def initName (scope : Nat) (name : Units) (v : Value) : Run Unit := do
  let s := (← MonadState.get).scopes.getD scope default
  match s.form with
  | .global => put (.object Intrinsic.global.ref) (Key.ofUnits name) v false
  | _ =>
    match s.bindings.findIdx? fun b => b.name == name with
    | some i => setBinding scope i v
    | none =>
      modify fun r => { r with
        scopes := r.scopes.modify scope fun s => { s with
          bindings := s.bindings.push { name := name, value := some v } } }

/-- Declare a variable that may exist already. -/
def declareVar (scope : Nat) (name : Units) : Run Unit := do
  let s := (← MonadState.get).scopes.getD scope default
  match s.form with
  | .global =>
    let g := Intrinsic.global.ref
    if (← own? g (Key.ofUnits name)).isNone then
      let _ ← define g (Key.ofUnits name) (.ofEntry (.plain .undefined)) true
  | _ =>
    if (s.bindings.find? fun b => b.name == name).isNone then
      modify fun r => { r with
        scopes := r.scopes.modify scope fun s => { s with
          bindings := s.bindings.push { name := name, value := some .undefined } } }

/-- The bindings of names that have been declared but not reached. -/
def unreached (names : List LexicalName) : Array Binding :=
  (names.map fun n => { name := n.name, value := none, constant := n.constant : Binding }).toArray

/-- Run in a new scope. If nothing was created meanwhile, nothing can refer to the scope, and it is
taken away again. -/
def inScope {α : Type} (form : ScopeForm) (bindings : Array Binding) (parent : Nat)
    (body : Nat → Run α) : Run α := do
  let before := (← MonadState.get).objects.size
  let id ← newScope form bindings parent
  let a ← body id
  modify fun r =>
    if r.objects.size == before && r.scopes.size == id + 1 then { r with scopes := r.scopes.pop }
    else r
  return a

end SnippetService.Script.Run
