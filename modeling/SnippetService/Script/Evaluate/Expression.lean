import SnippetService.Script.Evaluate.Frame
/-!
Evaluating expressions. Operands run from left to right; a name or place that is assigned to is found
before the value is computed.
-/
namespace SnippetService.Script.Evaluate

open Run

/-- The left operands of a run of binary operators, which would otherwise nest as deep as it is
long. -/
def spine : Nat → Expr → List (BinaryOp × Expr) → Expr × List (BinaryOp × Expr)
  | fuel + 1, .binary op l r, rest => spine fuel l ((op, r) :: rest)
  | _, e, rest => (e, rest)

/-- The values of array elements or arguments. -/
def values (ev : Evaluator) (f : Frame) (items : List Expr) : Run (Array Value) :=
  items.foldlM (fun found item => do
    match item with
    | .spread e =>
      let vs ← iterate (← ev.expr f e)
      return found ++ vs
    | e => return found.push (← ev.expr f e)) #[]

/-- An array literal; its holes have no property. -/
def arrayLiteral (ev : Evaluator) (f : Frame) (items : List Expr) : Run Value := do
  let hasHole := items.any fun e => match e with
    | .hole => true
    | _ => false
  if !hasHole then newArray (← values ev f items)
  else
    let found : Array (Option Value) ← items.foldlM (fun found item => do
      match item with
      | .hole => return found.push none
      | .spread e =>
        let vs ← iterate (← ev.expr f e)
        return found ++ vs.map some
      | e => return found.push (some (← ev.expr f e))) #[]
    let v ← newArray #[]
    match v with
    | .object ref =>
      found.toList.zipIdx.forM fun (x, i) => match x with
        | some x => modifyObj ref fun o => o.store (.index i) (.plain x)
        | none => pure ()
      modifyObj ref fun o => (o.setLength found.size).1
    | _ => pure ()
    return v

/-- The key of a member that an expression names. -/
def memberKey (ev : Evaluator) (f : Frame) (e : Expr) : Run Key := do
  match e with
  | .string s => return Key.ofUnits s
  | .hiddenName name => hiddenKey f.scope name
  | _ => toKey (← ev.expr f e)

/-- An expression whose value, if it is a function without a name, is named after a key. -/
def namedValue (ev : Evaluator) (f : Frame) (k : Key) (computed : Bool) (e : Expr) : Run Value := do
  match computed, e with
  | true, .function index =>
    match ← codeOf index with
    | some node =>
      if node.name.isEmpty then
        return .object (← makeFunction f index none (some (← functionNameOf k)))
      else ev.expr f e
    | none => ev.expr f e
  | _, _ => ev.expr f e

/-- Add a member to an object that a literal makes. -/
def addMember (ev : Evaluator) (f : Frame) (ref : Nat) : Member → Run Unit
  | .mk kind keyExpr valueExpr => do
    let computed := match keyExpr with
      | .string _ => false
      | _ => true
    let function (k : Key) (word : Units) : Run Value := do
      match valueExpr with
      | .function index =>
        return .object (← makeFunction f index (some ref) (some (word ++ (← functionNameOf k))))
      | e => ev.expr f e
    match kind with
    | .spread => copyProperties ref (← ev.expr f valueExpr) []
    | .prototype =>
      match ← ev.expr f valueExpr with
      | .object p => let _ ← setPrototype ref (some p) false
      | .null => let _ ← setPrototype ref none false
      | _ => return
    | .value =>
      let k ← memberKey ev f keyExpr
      defineValue ref k (← namedValue ev f k computed valueExpr)
    | .method =>
      let k ← memberKey ev f keyExpr
      defineValue ref k (← function k {})
    | .getter =>
      let k ← memberKey ev f keyExpr
      defineAccessor ref k (← function k "get ") true true
    | .setter =>
      let k ← memberKey ev f keyExpr
      defineAccessor ref k (← function k "set ") false true

/-- A place outside of names: an object with a key, a private member, or a member of `super`. -/
inductive Spot where
  | property (base : Value) (k : Key)
  | pending (base key : Value)
  | hidden (base : Value) (k : Key) (name : Units)
  | superMember (k : Key)
  | name (text : Units)

/-- Find the place that an expression stands for. -/
def spotOf (ev : Evaluator) (f : Frame) (e : Expr) : Run Spot := do
  match e with
  | .member o name => return .property (← ev.expr f o) (Key.ofUnits name)
  | .index o key =>
    let base ← ev.expr f o
    let k ← ev.expr f key
    return .pending base k
  | .hiddenMember o name =>
    let base ← ev.expr f o
    return .hidden base (← hiddenKey f.scope name) name
  | .superMember key =>
    let _ ← thisOf f
    return .superMember (← memberKey ev f key)
  | .name text => return .name text
  | e => return .property (← ev.expr f e) (.name {})

/-- Settle the key of a place, for a place that is both read and written. -/
def settle (s : Spot) : Run Spot := do
  match s with
  | .pending base key =>
    if base.isNullish then fail .noProperty else return .property base (← toKey key)
  | s => return s

def readSpot (f : Frame) (s : Spot) : Run Value := do
  match s with
  | .property base k => get base k
  | .pending base key => get base (← toKey key)
  | .hidden base k name => getHidden base k name
  | .superMember k => getSuper f k
  | .name text => readName f.scope text

def writeSpot (f : Frame) (s : Spot) (v : Value) : Run Unit := do
  match s with
  | .property base k => put base k v f.strict
  | .pending base key => put base (← toKey key) v f.strict
  | .hidden base k name => putHidden base k name v
  | .superMember k =>
    let this ← thisOf f
    match ← superBase f with
    | .object p =>
      let _ ← putFrom chainLimit p k v this f.strict
    | other => put other k v f.strict
  | .name text => writeName f.scope text v f.strict

/-- A function to be called, with the value of `this` for it; nothing if a chain ended early. -/
def calleeOf (ev : Evaluator) (f : Frame) (e : Expr) : Run (Option (Value × Value)) := do
  let onBase (o : Expr) (read : Value → Run Value) : Run (Option (Value × Value)) := do
    match ← ev.link f o with
    | none => return none
    | some base => return some (← read base, base)
  match e with
  | .member o name => onBase o fun base => get base (Key.ofUnits name)
  | .index o key => onBase o fun base => do
    let k ← ev.expr f key
    get base (← toKey k)
  | .hiddenMember o name => onBase o fun base => do
    getHidden base (← hiddenKey f.scope name) name
  | .superMember key =>
    let this ← thisOf f
    let k ← memberKey ev f key
    return some (← getSuper f k, this)
  | .name text =>
    match ← find f.scope text with
    | .object ref => return some (← get (.object ref) (Key.ofUnits text), .object ref)
    | _ => return some (← readName f.scope text, .undefined)
  | e =>
    match ← ev.link f e with
    | none => return none
    | some v => return some (v, .undefined)

/-- Find the function of a call, where the function itself may be optional. -/
def optionalCallee (ev : Evaluator) (f : Frame) (e : Expr) : Run (Option (Value × Value)) := do
  match e with
  | .optional inner =>
    match ← calleeOf ev f inner with
    | some (fn, this) => return if fn.isNullish then none else some (fn, this)
    | none => return none
  | .chain inner =>
    match ← calleeOf ev f inner with
    | some r => return some r
    | none => return some (.undefined, .undefined)
  | e => calleeOf ev f e

/-- A call that may be a direct call of `eval`, which runs text in the frame itself. -/
def callOf (ev : Evaluator) (f : Frame) (runText : Frame → Value → Run Value)
    (callee : Expr) (args : List Expr) : Run (Option Value) := do
  match ← optionalCallee ev f callee with
  | none => return none
  | some (fn, this) =>
    let vs ← values ev f args
    let isEval := match callee, fn with
      | .name text, .object ref => text == "eval" && ref == Intrinsic.evalFunction.ref
      | _, _ => false
    if isEval then return some (← runText f (vs.getD 0 .undefined))
    else return some (← call fn this vs)

/-- A part of a chain of accesses. -/
def link (ev : Evaluator) (runText : Frame → Value → Run Value) (f : Frame) (e : Expr) :
    Run (Option Value) := do
  match e with
  | .optional o =>
    match ← ev.link f o with
    | some v => return if v.isNullish then none else some v
    | none => return none
  | .member o name =>
    match ← ev.link f o with
    | some base => return some (← get base (Key.ofUnits name))
    | none => return none
  | .index o key =>
    match ← ev.link f o with
    | some base =>
      let k ← ev.expr f key
      return some (← get base (← toKey k))
    | none => return none
  | .hiddenMember o name =>
    match ← ev.link f o with
    | some base => return some (← getHidden base (← hiddenKey f.scope name) name)
    | none => return none
  | .call callee args => callOf ev f runText callee args
  | e => return some (← ev.expr f e)

/-- The value of `delete`. -/
def deleteOf (ev : Evaluator) (f : Frame) (e : Expr) : Run Value := do
  match e with
  | .member o name =>
    let base ← ev.expr f o
    return .boolean (← deleteProperty base (Key.ofUnits name) f.strict)
  | .index o key =>
    let base ← ev.expr f o
    let k ← ev.expr f key
    return .boolean (← deleteProperty base (← toKey k) f.strict)
  | .chain (.member o name) =>
    match ← ev.link f o with
    | some base => return .boolean (← deleteProperty base (Key.ofUnits name) f.strict)
    | none => return .boolean true
  | .chain (.index o key) =>
    match ← ev.link f o with
    | some base =>
      let k ← ev.expr f key
      return .boolean (← deleteProperty base (← toKey k) f.strict)
    | none => return .boolean true
  | .superMember _ => fail .deleteSuper
  | .name text =>
    match ← find f.scope text with
    | .binding _ _ _ => return .boolean false
    | .object ref => return .boolean (← deleteProperty (.object ref) (Key.ofUnits text) false)
    | .global =>
      return .boolean (← deleteProperty Intrinsic.global.value (Key.ofUnits text) false)
  | e =>
    let _ ← ev.expr f e
    return .boolean true

/-- The value of `++` or `--`. -/
def updateOf (ev : Evaluator) (f : Frame) (before : Bool) (step : Int) (target : Expr) :
    Run Value := do
  let s ← settle (← spotOf ev f target)
  let old ← toNumeric (← readSpot f s)
  let new := match old with
    | .bigint n => Value.bigint (n + step)
    | .number x => .number (x + Float.ofInt step)
    | v => v
  writeSpot f s new
  return if before then new else old

/-- The values and texts of a template, joined. -/
def templateText (ev : Evaluator) (f : Frame) : List Units → List Expr → Units → Run Units
  | t :: ts, e :: es, found => do
    let s ← toText (← ev.expr f e)
    templateText ev f ts es (found ++ t ++ s)
  | t :: _, [], found => return found ++ t
  | [], _, found => return found

/-- Whether a name is in use for a value, and its type. -/
def typeOf (ev : Evaluator) (f : Frame) (e : Expr) : Run Value := do
  let v ← match e with
    | .name text => pure ((← readName? f.scope text).getD .undefined)
    | e => ev.expr f e
  return .string (← typeName v)

/-- What the evaluation of expressions takes from elsewhere: running text, making classes, regular
expressions, and waiting. -/
structure Services where
  runText : Frame → Value → Run Value
  classValue : Frame → Nat → Run Value
  regexp : Units → Units → Run Value
  awaitValue : Value → Run Value

/-- Evaluate an expression. -/
def expression (ev : Evaluator) (sv : Services) (f : Frame) (e : Expr) : Run Value := do
  match e with
  | .number x => return .number x
  | .bigint n => return .bigint n
  | .string s => return .string s
  | .boolean b => return .boolean b
  | .null => return .null
  | .undefined | .hole => return .undefined
  | .regexp body flags => sv.regexp body flags
  | .template texts es => return .string (← templateText ev f texts es {})
  | .tagged tag site texts es =>
    match ← optionalCallee ev f tag with
    | none => return .undefined
    | some (fn, this) =>
      let strings ← templateObject site texts
      let vs ← values ev f es
      call fn this (#[strings] ++ vs)
  | .name text => readName f.scope text
  | .this => thisOf f
  | .newTarget => return (← activation f.activation).newTarget
  | .array items => arrayLiteral ev f items
  | .spread e => ev.expr f e
  | .object ms =>
    let ref ← newObject
    ms.forM (addMember ev f ref)
    return .object ref
  | .function index => return .object (← makeFunction f index none none)
  | .classOf index => sv.classValue f index
  | .unary op e => unary op (← ev.expr f e)
  | .typeOf e => typeOf ev f e
  | .voidOf e =>
    let _ ← ev.expr f e
    return .undefined
  | .delete e => deleteOf ev f e
  | .update before step target => updateOf ev f before step target
  | .binary op l r =>
    let (first, rest) := spine 100000 l [(op, r)]
    rest.foldlM (fun a (op, e) => do
      let b ← ev.expr f e
      binary op a b) (← ev.expr f first)
  | .logical op l r =>
    let v ← ev.expr f l
    match op with
    | .and => if v.truthy then ev.expr f r else return v
    | .or => if v.truthy then return v else ev.expr f r
    | .coalesce => if v.isNullish then ev.expr f r else return v
  | .conditional test yes no =>
    if (← ev.expr f test).truthy then ev.expr f yes else ev.expr f no
  | .assign target value =>
    match target with
    | .name text =>
      let v ← ev.expr f value
      writeName f.scope text v f.strict
      return v
    | .place e =>
      let s ← spotOf ev f e
      let v ← ev.expr f value
      writeSpot f s v
      return v
    | p =>
      let v ← ev.expr f value
      ev.bind f .assign p v
      return v
  | .assignOp op target value =>
    let s ← settle (← spotOf ev f target)
    let old ← readSpot f s
    let v ← ev.expr f value
    let new ← binary op old v
    writeSpot f s new
    return new
  | .assignLogical op target value =>
    let s ← settle (← spotOf ev f target)
    let old ← readSpot f s
    let goesOn := match op with
      | .and => old.truthy
      | .or => !old.truthy
      | .coalesce => old.isNullish
    if goesOn then
      let v ← ev.expr f value
      writeSpot f s v
      return v
    else return old
  | .comma a b =>
    let _ ← ev.expr f a
    ev.expr f b
  | .call callee args => return (← callOf ev f sv.runText callee args).getD .undefined
  | .construct callee args =>
    let fn ← ev.expr f callee
    let vs ← values ev f args
    if ← isConstructor fn then construct fn vs fn
    else if fn.isObject then fail .notAConstructor
    else fail .notAFunction
  | .superCall args => callSuper f (← values ev f args)
  | .superMember key =>
    let _ ← thisOf f
    getSuper f (← memberKey ev f key)
  | .member o name => get (← ev.expr f o) (Key.ofUnits name)
  | .index o key =>
    let base ← ev.expr f o
    let k ← ev.expr f key
    get base (← toKey k)
  | .hiddenMember o name =>
    let base ← ev.expr f o
    getHidden base (← hiddenKey f.scope name) name
  | .hiddenName _ => return .undefined
  | .chain e | .optional e => return (← ev.link f e).getD .undefined
  | .importCall e =>
    let _ ← ev.expr f e
    allocValue { proto := some Intrinsic.promisePrototype.ref, kind := .promise .pending }
  | .yield e | .yieldAll e =>
    let _ ← ev.expr f e
    halt .suspended
  | .await e => sv.awaitValue (← ev.expr f e)

end SnippetService.Script.Evaluate
