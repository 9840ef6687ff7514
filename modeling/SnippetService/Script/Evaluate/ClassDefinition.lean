import SnippetService.Script.Evaluate.Pattern
/-!
Making classes. A class is its constructor, a prototype with its methods, and the fields that each new
object gets.
-/
namespace SnippetService.Script.Evaluate

open Run

/-- The prototypes that a class and its objects inherit from. -/
def parents (ev : Evaluator) (f : Frame) (parent : Option Expr) : Run (Option Nat × Nat) := do
  match parent with
  | none => return (some Intrinsic.objectPrototype.ref, Intrinsic.functionPrototype.ref)
  | some e =>
    match ← ev.expr f e with
    | .null => return (none, Intrinsic.functionPrototype.ref)
    | .object p =>
      if ← isConstructor (.object p) then
        match ← get (.object p) "prototype" with
        | .object q => return (some q, p)
        | .null => return (none, p)
        | _ => fail .parentPrototype
      else fail .parentNotConstructor
    | _ => fail .parentNotConstructor

/-- Add a field plan to a class. -/
def addPlan (ctor : Nat) (plan : FieldPlan) : Run Unit :=
  modifyObj ctor fun o => match o.kind with
    | .closure c => { o with kind := .closure { c with fields := c.fields.push plan } }
    | _ => o

/-- A member's key, made before any member is put in place. -/
structure MemberPlan where
  member : ClassMember
  key : Key
  name : Units

/-- Put a method or accessor on its object. -/
def defineMember (f : Frame) (ctor proto : Nat) (m : MemberPlan) : Run Unit := do
  let home := if m.member.isStatic then ctor else proto
  let function (word : Units) : Run Value := do
    match m.member.function with
    | some index =>
      return .object (← makeFunction f index (some home) (some (word ++ m.name)))
    | none => return .undefined
  let isHidden := match m.key with
    | .hidden _ => true
    | _ => false
  let accessor (v : Value) (isGetter : Bool) : Run Unit := do
    if isHidden then
      -- Both halves of a private accessor share one entry.
      let old ← if m.member.isStatic then pure ((← obj ctor).find? m.key)
        else match ← kindOf ctor with
          | .closure c => pure ((c.fields.find? fun p => p.key == m.key).bind fun p =>
              match p.value with | .fixed e => some e | .computed _ => none)
          | _ => pure none
      let (g, s) : Value × Value := match old with
        | some (.accessor g s _ _) => (g, s)
        | _ => (.undefined, .undefined)
      let e := if isGetter then Entry.accessor v s false false else .accessor g v false false
      if m.member.isStatic then modifyObj ctor fun o => o.put m.key e
      else modifyObj ctor fun o => match o.kind with
        | .closure c =>
          let others := c.fields.filter fun p => p.key != m.key
          { o with kind := .closure { c with fields := others.push ⟨m.key, .fixed e⟩ } }
        | _ => o
    else defineAccessor home m.key v isGetter false
  match m.member.kind with
  | .getter => accessor (← function "get ") true
  | .setter => accessor (← function "set ") false
  | .method =>
    let v ← function {}
    if isHidden then
      let e := Entry.data v false false false
      if m.member.isStatic then modifyObj ctor fun o => o.put m.key e
      else addPlan ctor ⟨m.key, .fixed e⟩
    else
      let _ ← define home m.key (.ofEntry (.builtin v)) true
  | _ => return

/-- Give a class its static fields, and plan the fields of its objects. -/
def defineField (f : Frame) (ctor proto : Nat) (m : MemberPlan) : Run Unit := do
  match m.member.kind with
  | .value =>
    let home := if m.member.isStatic then ctor else proto
    let fn ← match m.member.function with
      | some index => do
        let ref ← makeFunction f index (some home) (some m.name)
        pure (some (Value.object ref))
      | none => pure none
    if m.member.isStatic then
      let v ← match fn with
        | some fn => call fn (.object ctor) #[]
        | none => pure .undefined
      match m.key with
      | .hidden _ => modifyObj ctor fun o => o.put m.key (.data v true false false)
      | k =>
        let _ ← define ctor k (.ofEntry (.plain v)) true
    else addPlan ctor ⟨m.key, .computed fn⟩
  | _ => return

/-- Make a class. -/
def classValue (ev : Evaluator) (f : Frame) (index : Nat) : Run Value := do
  match (← MonadState.get).code.classes[index]? with
  | none => return .undefined
  | some node =>
    let nameBinding : Array Binding :=
      if node.name.isEmpty then #[] else #[{ name := node.name, value := none, constant := true }]
    let scope ← newScope .names nameBinding f.scope
    let f := { f with scope := scope, strict := true }
    for m in node.members do
      match m.key with
      | .hiddenName name =>
        if (← readHidden scope name).isNone then
          let id ← newSymbol (some name)
          initName scope name (.symbol id)
      | _ => pure ()
    let (protoParent, ctorParent) ← parents ev f node.parent
    let proto ← newObject protoParent
    let ctor ← alloc
      { proto := some ctorParent
        kind := .closure
          { code := match node.constructor with
              | some i => .function i
              | none => .standardConstructor index
            scope := scope
            activation := f.activation
            home := some proto
            isClass := true
            derived := node.parent.isSome }
        entries := functionEntries (← arity node) node.name }
    modifyObj ctor fun o => o.put "prototype" (.data (.object proto) false false false)
    modifyObj proto fun o => o.put "constructor" (.builtin (.object ctor))
    let plans ← node.members.mapM fun m => do
      let k ← memberKey ev f m.key
      let name ← functionNameOf k
      let plan : MemberPlan := ⟨m, k, name⟩
      defineMember f ctor proto plan
      return plan
    if !node.name.isEmpty then initName scope node.name (.object ctor)
    plans.forM (defineField f ctor proto)
    return .object ctor
where
  /-- The private name if this very class has made it already. -/
  readHidden (scope : Nat) (name : Units) : Run (Option Value) := do
    let s := (← MonadState.get).scopes.getD scope default
    return (s.bindings.find? fun b => b.name == name).bind (·.value)
  arity (node : ClassNode) : Run Nat := do
    match node.constructor with
    | some i => return ((← codeOf i).map (·.arity)).getD 0
    | none => return 0

end SnippetService.Script.Evaluate
