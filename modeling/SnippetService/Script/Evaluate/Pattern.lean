import SnippetService.Script.Evaluate.Expression
/-!
Storing values in patterns. Structures are taken apart from left to right; an iterator that has not
come to its end is closed.
-/
namespace SnippetService.Script.Evaluate

open Run

/-- Store a value that is computed after its place has been found. -/
def bindFrom (ev : Evaluator) (f : Frame) (mode : BindMode) (p : Pattern) (read : Run Value) :
    Run Unit := do
  match p with
  | .place e =>
    let s ← spotOf ev f e
    writeSpot f s (← read)
  | .withDefault (.place e) d =>
    let s ← spotOf ev f e
    let v ← read
    let v ← if v.isUndefined then ev.expr f d else pure v
    writeSpot f s v
  | p =>
    let v ← read
    ev.bind f mode p v

/-- Store the values of an iterator in the elements of an array pattern. The result tells whether the
iterator has come to its end. -/
def bindElements (ev : Evaluator) (f : Frame) (mode : BindMode) (it : Iterator) :
    List Pattern → Bool → Run Bool
  | [], done => return done
  | p :: rest, done => do
    let next (done : Bool) : Run (Option Value) := if done then return none else iteratorStep it
    match p with
    | .hole =>
      let v ← next done
      bindElements ev f mode it rest (done || v.isNone)
    | .rest target =>
      let vs ← if done then pure #[] else collect it (← rounds) #[]
      ev.bind f mode target (← newArray vs)
      bindElements ev f mode it rest true
    | p =>
      let v ← next done
      let done := done || v.isNone
      let store := bindFrom ev f mode p (return v.getD .undefined)
      if done then store else closing it store
      bindElements ev f mode it rest done

/-- Store the properties of a value in the parts of an object pattern. -/
def bindProperties (ev : Evaluator) (f : Frame) (mode : BindMode) (v : Value) :
    List Pattern → List Key → Run Unit
  | [], _ => return
  | p :: rest, seen => do
    match p with
    | .property keyExpr target =>
      let k ← memberKey ev f keyExpr
      bindFrom ev f mode target (get v k)
      bindProperties ev f mode v rest (k :: seen)
    | .rest target =>
      let ref ← newObject
      copyProperties ref v seen
      ev.bind f mode target (.object ref)
    | _ => bindProperties ev f mode v rest seen

/-- Store a value in a pattern. -/
def pattern (ev : Evaluator) (f : Frame) (mode : BindMode) (p : Pattern) (v : Value) :
    Run Unit := do
  match p with
  | .name text =>
    match mode with
    | .first => initName f.scope text v
    | _ => writeName f.scope text v f.strict
  | .place e =>
    let s ← spotOf ev f e
    writeSpot f s v
  | .withDefault target d =>
    if v.isUndefined then ev.bind f mode target (← ev.expr f d)
    else ev.bind f mode target v
  | .array ps =>
    let it ← iterator v
    let done ← bindElements ev f mode it ps false
    if done then return else iteratorClose it
  | .object ps =>
    if v.isNullish then fail .toObject
    else bindProperties ev f mode v ps []
  | .rest target | .property _ target => ev.bind f mode target v
  | .hole => return

/-- The names that a pattern binds. -/
def boundNames : Nat → Pattern → List Units
  | 0, _ => []
  | n + 1, p =>
    match p with
    | .name text => [text]
    | .array ps | .object ps => ps.flatMap (boundNames n)
    | .rest t | .withDefault t _ | .property _ t => boundNames n t
    | .place _ | .hole => []

end SnippetService.Script.Evaluate
