import SnippetService.Script.Evaluate.ClassDefinition
/-!
Running statements. A program's value is that of the last expression statement it came to; statements
that can be left without one reset it first.
-/
namespace SnippetService.Script.Evaluate

open Run

/-- Note the value of a program. -/
def note (f : Frame) (v : Value) : Run Unit :=
  if f.collects then modify fun r => { r with completion := v } else return

/-- Make the functions that a block declares and give them to their names. -/
def makeDeclared (f : Frame) (declared : Declared) : Run Unit :=
  declared.functions.forM fun index => do
    match ← codeOf index with
    | some node =>
      let ref ← makeFunction f index none none
      initName f.scope node.name (.object ref)
    | none => return

/-- Run statements one after another until one of them leaves. -/
def sequence (ev : Evaluator) (f : Frame) : List Stmt → Run Completion
  | [] => return .normal
  | s :: rest => do
    match ← ev.stmt f [] s with
    | .normal => sequence ev f rest
    | c => return c

/-- Run a block in a scope of its own if it declares anything. -/
def block (ev : Evaluator) (f : Frame) (declared : Declared) (body : List Stmt) :
    Run Completion := do
  if declared.names.isEmpty && declared.functions.isEmpty then sequence ev f body
  else
    inScope .names (unreached declared.names) f.scope fun scope => do
      let f := { f with scope := scope }
      makeDeclared f declared
      sequence ev f body

/-- What the end of a loop's body means for the loop: to go on, or to end in some way. -/
def afterBody (labels : List Units) : Completion → Option Completion
  | .normal | .continueTo none => none
  | .breakTo none => some .normal
  | .continueTo (some l) => if labels.contains l then none else some (.continueTo (some l))
  | c => some c

def whileLoop (ev : Evaluator) (f : Frame) (labels : List Units) (test : Expr) (body : Stmt) :
    Nat → Run Completion
  | 0 => halt .interrupted
  | fuel + 1 => do
    step
    if (← ev.expr f test).truthy then
      match afterBody labels (← ev.stmt f [] body) with
      | none => whileLoop ev f labels test body fuel
      | some c => return c
    else return .normal

def doWhile (ev : Evaluator) (f : Frame) (labels : List Units) (body : Stmt) (test : Expr) :
    Nat → Run Completion
  | 0 => halt .interrupted
  | fuel + 1 => do
    step
    note f .undefined
    match afterBody labels (← ev.stmt f [] body) with
    | none =>
      if (← ev.expr f test).truthy then doWhile ev f labels body test fuel
      else return .normal
    | some c => return c

/-- A scope for the next round of a loop, with the values of the last one. If nothing was created in
the last round, its own scope can serve again. -/
def nextRound (copies : Bool) (scope before : Nat) : Run Nat := do
  let r ← MonadState.get
  if !copies || r.objects.size == before then return scope
  else
    let s := r.scopes.getD scope default
    newScope s.form s.bindings s.parent

/-- The rounds of a `for` loop. -/
def forRounds (ev : Evaluator) (f : Frame) (labels : List Units) (copies : Bool)
    (test update : Option Expr) (body : Stmt) : Nat → Nat → Run Completion
  | 0, _ => halt .interrupted
  | fuel + 1, scope => do
    step
    let g := { f with scope := scope }
    let before := (← MonadState.get).objects.size
    let goesOn ← match test with
      | some e => pure (← ev.expr g e).truthy
      | none => pure true
    if !goesOn then return .normal
    else match afterBody labels (← ev.stmt g [] body) with
      | some c => return c
      | none =>
        let scope ← nextRound copies scope before
        match update with
        | some e =>
          let _ ← ev.expr { f with scope := scope } e
        | none => pure ()
        forRounds ev f labels copies test update body fuel scope

/-- Store the values of declarations. -/
def declareAll (ev : Evaluator) (f : Frame) (d : Declarator) (ds : List (Pattern × Option Expr)) :
    Run Unit :=
  ds.forM fun (p, e) => do
    match d, e with
    | .var, none => return
    | .var, some e => ev.bind f .var p (← ev.expr f e)
    | _, none => ev.bind f .first p .undefined
    | _, some e => ev.bind f .first p (← ev.expr f e)

def forLoop (ev : Evaluator) (f : Frame) (labels : List Units) (start : ForStart)
    (test update : Option Expr) (body : Stmt) : Run Completion := do
  match start with
  | .none => forRounds ev f labels false test update body (← rounds) f.scope
  | .expr e =>
    let _ ← ev.expr f e
    forRounds ev f labels false test update body (← rounds) f.scope
  | .vars .var _ ds =>
    declareAll ev f .var ds
    forRounds ev f labels false test update body (← rounds) f.scope
  | .vars d names ds =>
    inScope .names (unreached names) f.scope fun scope => do
      declareAll ev { f with scope := scope } d ds
      forRounds ev f labels (d == .let) test update body (← rounds) scope

/-- One round of a loop over values: the value is stored and the body runs. -/
def eachRound (ev : Evaluator) (f : Frame) (target : ForTarget) (v : Value) (body : Stmt) :
    Run Completion := do
  match target.declarator with
  | none =>
    ev.bind f .assign target.target v
    ev.stmt f [] body
  | some .var =>
    ev.bind f .var target.target v
    ev.stmt f [] body
  | some _ =>
    inScope .names (unreached target.names) f.scope fun scope => do
      let f := { f with scope := scope }
      ev.bind f .first target.target v
      ev.stmt f [] body

/-- The keys that a loop over the properties of an object walks over, inherited ones after its own. -/
def enumerated : Nat → Nat → List Key → Run (List Key)
  | 0, _, _ => return []
  | n + 1, ref, seen => do
    let own ← ownKeys ref
    let names := own.filter fun k => match k with
      | .index _ | .name _ => !seen.contains k
      | _ => false
    let listed ← names.filterM (isEnumerable ref)
    match ← proto? ref with
    | none => return listed
    | some p => return listed ++ (← enumerated n p (names ++ seen))

def forInRounds (ev : Evaluator) (f : Frame) (labels : List Units) (target : ForTarget) (ref : Nat)
    (body : Stmt) : List Key → Run Completion
  | [] => return .normal
  | k :: rest => do
    step
    if ← has ref k then
      match afterBody labels (← eachRound ev f target k.toValue body) with
      | none => forInRounds ev f labels target ref body rest
      | some c => return c
    else forInRounds ev f labels target ref body rest

/-- The object of a loop over values, evaluated where the loop's own names are not reached yet. -/
def loopObject (ev : Evaluator) (f : Frame) (target : ForTarget) (e : Expr) : Run Value :=
  if target.names.isEmpty then ev.expr f e
  else inScope .names (unreached target.names) f.scope fun scope =>
    ev.expr { f with scope := scope } e

def forIn (ev : Evaluator) (f : Frame) (labels : List Units) (target : ForTarget) (object : Expr)
    (body : Stmt) : Run Completion := do
  let v ← loopObject ev f target object
  if v.isNullish then return .normal
  else
    let ref ← toObject v
    forInRounds ev f labels target ref body (← enumerated chainLimit ref [])

def forOfRounds (ev : Evaluator) (f : Frame) (labels : List Units) (target : ForTarget)
    (it : Iterator) (body : Stmt) : Nat → Run Completion
  | 0 => halt .interrupted
  | fuel + 1 => do
    match ← iteratorStep it with
    | none => return .normal
    | some v =>
      match afterBody labels (← closing it (eachRound ev f target v body)) with
      | none => forOfRounds ev f labels target it body fuel
      | some c =>
        iteratorClose it
        return c

def forOf (ev : Evaluator) (f : Frame) (labels : List Units) (target : ForTarget) (iterable : Expr)
    (body : Stmt) : Run Completion := do
  let it ← iterator (← loopObject ev f target iterable)
  forOfRounds ev f labels target it body (← rounds)

/-- The statements from the case that fits a value on; without one, from the default case on. -/
def selectCase (ev : Evaluator) (f : Frame) (v : Value) (byDefault : List Stmt) :
    List Stmt → Run (List Stmt)
  | [] => return byDefault
  | .caseMark none :: rest => selectCase ev f v rest rest
  | .caseMark (some e) :: rest => do
    if Value.strictEq v (← ev.expr f e) then return rest
    else selectCase ev f v byDefault rest
  | _ :: rest => selectCase ev f v byDefault rest

def switchOn (ev : Evaluator) (f : Frame) (value : Expr) (declared : Declared) (body : List Stmt) :
    Run Completion := do
  let v ← ev.expr f value
  let run (f : Frame) : Run Completion := do
    let rest ← selectCase ev f v [] body
    match ← sequence ev f rest with
    | .breakTo none => return .normal
    | c => return c
  if declared.names.isEmpty && declared.functions.isEmpty then run f
  else
    inScope .names (unreached declared.names) f.scope fun scope => do
      let f := { f with scope := scope }
      makeDeclared f declared
      run f

/-- Run the handler of a `try` for a thrown value. -/
def handle (ev : Evaluator) (f : Frame) (handler : Stmt) (param : Option Pattern)
    (names : List LexicalName) (v : Value) : Run Completion := do
  match param with
  | none => ev.stmt f [] handler
  | some p =>
    inScope .names (unreached names) f.scope fun scope => do
      let f := { f with scope := scope }
      ev.bind f .first p v
      ev.stmt f [] handler

/-- Run a last part however the guarded part ends. If the last part ends normally, the guarded part's
own end and value count. -/
def finally_ (ev : Evaluator) (f : Frame) (body last : Stmt) : Run Completion := do
  let ended ← attempt (ev.stmt f [] body)
  let value := (← MonadState.get).completion
  note f .undefined
  match ← ev.stmt f [] last with
  | .normal =>
    note f value
    match ended with
    | .ok c => return c
    | .error v => throwValue v
  | c => return c

/-- Run a statement. The labels are those that stand directly before it. -/
def statement (ev : Evaluator) (sv : Services) (f : Frame) (labels : List Units) (s : Stmt) :
    Run Completion := do
  match s with
  | .expr e =>
    note f (← ev.expr f e)
    return .normal
  | .vars d ds =>
    declareAll ev f d ds
    return .normal
  | .block declared body => block ev f declared body
  | .ifElse test yes no =>
    note f .undefined
    if (← ev.expr f test).truthy then ev.stmt f [] yes else ev.stmt f [] no
  | .whileLoop test body =>
    note f .undefined
    whileLoop ev f labels test body (← rounds)
  | .doWhile body test => doWhile ev f labels body test (← rounds)
  | .forLoop start test update body =>
    note f .undefined
    forLoop ev f labels start test update body
  | .forIn target object body =>
    note f .undefined
    forIn ev f labels target object body
  | .forOf target iterable body =>
    note f .undefined
    forOf ev f labels target iterable body
  | .switchOn value declared body =>
    note f .undefined
    switchOn ev f value declared body
  | .caseMark _ => return .normal
  | .returnValue e => return .returned (← ev.expr f e)
  | .breakTo label => return .breakTo label
  | .continueTo label => return .continueTo label
  | .throwValue e => throwValue (← ev.expr f e)
  | .tryCatch body handler param names hasHandler =>
    note f .undefined
    if hasHandler then
      match ← attempt (ev.stmt f [] body) with
      | .ok c => return c
      | .error v => handle ev f handler param names v
    else ev.stmt f [] body
  | .tryFinally body last =>
    note f .undefined
    finally_ ev f body last
  | .labelled label body =>
    let isLoop := match body with
      | .whileLoop _ _ | .doWhile _ _ | .forLoop _ _ _ _ | .forIn _ _ _ | .forOf _ _ _ => true
      | _ => false
    match ← ev.stmt f (label :: labels) body with
    | .breakTo none => return if isLoop then .breakTo none else .normal
    | .breakTo (some l) => return if l == label then .normal else .breakTo (some l)
    | c => return c
  | .classDecl name index =>
    let v ← sv.classValue f index
    initName f.scope name v
    return .normal
  | .functionDecl name =>
    let v ← readName f.scope name
    initName f.varScope name v
    return .normal
  | .withObject e body =>
    let ref ← toObject (← ev.expr f e)
    note f .undefined
    inScope (.withObject ref) #[] f.scope fun scope => ev.stmt { f with scope := scope } [] body
  | .empty => return .normal

end SnippetService.Script.Evaluate
