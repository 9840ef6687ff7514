import SnippetService.Script.Library.Plan
/-!
The constructor `Object` and what all objects inherit.
-/
namespace SnippetService.Script.Library

open Run Evaluate

/-- The object an argument is, or a refusal. -/
def objectArg (v : Value) : Run Nat := do
  match v with
  | .object ref => return ref
  | _ => fail .notAnObject

namespace ObjectMethods

def construct : Action := fun c => do
  let plain := c.newTarget.isUndefined || Value.strictEq c.newTarget c.callee
  if !plain then return .object (← newObject (some (← prototypeFor c.newTarget .objectPrototype)))
  else if (c.arg 0).isNullish then return .object (← newObject)
  else return .object (← toObject (c.arg 0))

/-- The keys of an object's own properties that are texts and listed. -/
def listedKeys (ref : Nat) : Run (List Key) := do
  let named := (← ownKeys ref).filter fun k => k.text?.isSome
  named.filterM (isEnumerable ref)

def assign : Action := fun c => do
  let target ← toObject (c.arg 0)
  (c.args.toList.drop 1).forM fun source => do
    if source.isNullish then return
    else
      let ref ← toObject source
      (← ownKeys ref).forM fun k => do
        if ← isEnumerable ref k then
          put (.object target) k (← get (.object ref) k) true
  return .object target

def defineAll (ref : Nat) (descriptors : Value) : Run Unit := do
  let from_ ← toObject descriptors
  let keys ← (← ownKeys from_).filterM (isEnumerable from_)
  keys.forM fun k => do
    let d ← toDescriptor (← get (.object from_) k)
    let _ ← defineChecked ref k d true

def create : Action := fun c => do
  let proto ← match c.arg 0 with
    | .object p => pure (some p)
    | .null => pure none
    | _ => fail .notAPrototype
  let ref ← newObject proto
  if !(c.arg 1).isUndefined then defineAll ref (c.arg 1)
  return .object ref

def defineProperty : Action := fun c => do
  let ref ← objectArg (c.arg 0)
  let k ← toKey (c.arg 1)
  let d ← toDescriptor (c.arg 2)
  let _ ← defineChecked ref k d true
  return c.arg 0

def defineProperties : Action := fun c => do
  let ref ← objectArg (c.arg 0)
  defineAll ref (c.arg 1)
  return c.arg 0

def keys : Action := fun c => do
  let ref ← toObject (c.arg 0)
  newArray ((← listedKeys ref).map Key.toValue).toArray

def values : Action := fun c => do
  let ref ← toObject (c.arg 0)
  let vs ← (← listedKeys ref).mapM fun k => get (.object ref) k
  newArray vs.toArray

def entries : Action := fun c => do
  let ref ← toObject (c.arg 0)
  let es ← (← listedKeys ref).mapM fun k => do
    let v ← get (.object ref) k
    newArray #[k.toValue, v]
  newArray es.toArray

def fromEntries : Action := fun c => do
  let ref ← newObject
  let it ← iterator (c.arg 0)
  let vs ← collect it (← rounds) #[]
  vs.toList.forM fun v => do
    if !v.isObject then fail .notAnObject
    else
      let k ← toKey (← get v (.index 0))
      defineValue ref k (← get v (.index 1))
  return .object ref

def getOwnPropertyDescriptor : Action := fun c => do
  let ref ← toObject (c.arg 0)
  match ← own? ref (← toKey (c.arg 1)) with
  | some e => describe e
  | none => return .undefined

def getOwnPropertyDescriptors : Action := fun c => do
  let ref ← toObject (c.arg 0)
  let found ← newObject
  (← ownKeys ref).forM fun k => do
    match ← own? ref k with
    | some e => defineValue found k (← describe e)
    | none => return
  return .object found

def ownNames (symbols : Bool) : Action := fun c => do
  let ref ← toObject (c.arg 0)
  let ks := (← ownKeys ref).filter fun k => k.text?.isNone == symbols
  newArray (ks.map Key.toValue).toArray

def getPrototypeOf : Action := fun c => do
  match ← proto? (← toObject (c.arg 0)) with
  | some p => return .object p
  | none => return .null

def setPrototypeOf : Action := fun c => do
  if (c.arg 0).isNullish then fail .notAnObject
  else
    let proto ← match c.arg 1 with
      | .object p => pure (some p)
      | .null => pure none
      | _ => fail .notAnObject
    match c.arg 0 with
    | .object ref => let _ ← setPrototype ref proto true
    | _ => pure ()
    return c.arg 0

/-- Forbid an object to get new properties. -/
def preventExtensions (ref : Nat) : Run Bool := do
  match ← trapOf ref "preventExtensions" with
  | none =>
    modifyObj ref fun o => { o with extensible := false }
    return true
  | some (target, _, none) =>
    modifyObj target fun o => { o with extensible := false }
    return true
  | some (target, handler, some trap) =>
    return (← call trap (.object handler) #[.object target]).truthy

def isExtensible (ref : Nat) : Run Bool := isExtensibleFrom chainLimit ref

/-- Make all properties of an object permanent, and their values too if it is frozen. -/
def fix (frozen : Bool) : Action := fun c => do
  match c.arg 0 with
  | .object ref =>
    if !(← preventExtensions ref) then fail (.proxyFailed "proxy preventExtensions handler returned false")
    (← ownKeys ref).forM fun k => do
      match ← own? ref k with
      | some e =>
        let isData := match e with
          | .data _ _ _ _ => true
          | .accessor _ _ _ _ => false
        let d : Descriptor :=
          { configurable := some false, writable := if frozen && isData then some false else none }
        let _ ← define ref k d true
      | none => return
    return c.arg 0
  | v => return v

/-- Whether all properties of an object are permanent. -/
def isFixed (frozen : Bool) : Action := fun c => do
  match c.arg 0 with
  | .object ref =>
    let open_ ← (← ownKeys ref).filterM fun k => do
      match ← own? ref k with
      | some (.data _ w _ conf) => return conf || (frozen && w)
      | some (.accessor _ _ _ conf) => return conf
      | none => return false
    return .boolean (open_.isEmpty && !(← isExtensible ref))
  | _ => return .boolean true

def hasOwnProperty : Action := fun c => do
  let k ← toKey (c.arg 0)
  let ref ← toObject c.this
  return .boolean (← own? ref k).isSome

def isPrototypeOf : Action := fun c => do
  match c.arg 0 with
  | .object v =>
    let ref ← toObject c.this
    match ← proto? v with
    | some p => return .boolean (← inheritsFrom chainLimit p ref)
    | none => return .boolean false
  | _ => return .boolean false

def propertyIsEnumerable : Action := fun c => do
  let k ← toKey (c.arg 0)
  let ref ← toObject c.this
  return .boolean (← isEnumerable ref k)

/-- The word that describes an object without a tag of its own. -/
def builtinTag (ref : Nat) : Run String := do
  if ← isArray (.object ref) then return "Array"
  else if ← isCallable (.object ref) then return "Function"
  else return match ← kindOf ref with
    | .error => "Error"
    | .boolean _ => "Boolean"
    | .number _ => "Number"
    | .string _ => "String"
    | .arguments => "Arguments"
    | .date _ => "Date"
    | .regexp _ _ => "RegExp"
    | _ => "Object"

def toString : Action := fun c => do
  match c.this with
  | .undefined => return .string "[object Undefined]"
  | .null => return .string "[object Null]"
  | this =>
    let ref ← toObject this
    let standard ← builtinTag ref
    let tag ← match ← get (.object ref) WellKnown.toStringTag.key with
      | .string s => pure s
      | _ => pure (standard : Units)
    return .string ("[object " ++ tag ++ "]")

def toLocaleString : Action := fun c => invoke c.this "toString" #[]

def valueOf : Action := fun c => return .object (← toObject c.this)

def readProto : Action := fun c => do
  match ← proto? (← toObject c.this) with
  | some p => return .object p
  | none => return .null

def writeProto : Action := fun c => do
  if c.this.isNullish then fail .notAnObject
  else
    match c.this, c.arg 0 with
    | .object ref, .object p => let _ ← setPrototype ref (some p) true
    | .object ref, .null => let _ ← setPrototype ref none true
    | _, _ => pure ()
    return .undefined

def defineHalf (isGetter : Bool) : Action := fun c => do
  let ref ← toObject c.this
  if !(← isCallable (c.arg 1)) then fail .notAFunction
  else
    defineAccessor ref (← toKey (c.arg 0)) (c.arg 1) isGetter true
    return .undefined

/-- One half of the accessor that a key names, also inherited. -/
def lookupHalf (isGetter : Bool) : Action := fun c => do
  let ref ← toObject c.this
  let k ← toKey (c.arg 0)
  go k chainLimit ref
where
  go (k : Key) : Nat → Nat → Run Value
    | 0, _ => return .undefined
    | n + 1, ref => do
      match ← own? ref k with
      | some (.accessor g s _ _) => return if isGetter then g else s
      | some _ => return .undefined
      | none => match ← proto? ref with
        | some p => go k n p
        | none => return .undefined

def standardClass : StandardClass where
  name := "Object"
  arity := 1
  prototype := some .objectPrototype
  run := construct
  statics :=
    [.method "create" 2 create,
     .method "getPrototypeOf" 1 getPrototypeOf,
     .method "setPrototypeOf" 2 setPrototypeOf,
     .method "defineProperty" 3 defineProperty,
     .method "defineProperties" 2 defineProperties,
     .method "getOwnPropertyNames" 1 (ownNames false),
     .method "getOwnPropertySymbols" 1 (ownNames true),
     .method "keys" 1 keys,
     .method "values" 1 values,
     .method "entries" 1 entries,
     .method "isExtensible" 1 fun c => do
       match c.arg 0 with
       | .object ref => return .boolean (← isExtensible ref)
       | _ => return .boolean false,
     .method "preventExtensions" 1 fun c => do
       match c.arg 0 with
       | .object ref =>
         if ← preventExtensions ref then return c.arg 0
         else fail (.proxyFailed "proxy preventExtensions handler returned false")
       | v => return v,
     .method "getOwnPropertyDescriptor" 2 getOwnPropertyDescriptor,
     .method "getOwnPropertyDescriptors" 1 getOwnPropertyDescriptors,
     .method "is" 2 fun c => return .boolean (Value.same (c.arg 0) (c.arg 1)),
     .method "assign" 2 assign,
     .method "seal" 1 (fix false),
     .method "freeze" 1 (fix true),
     .method "isSealed" 1 (isFixed false),
     .method "isFrozen" 1 (isFixed true),
     .method "fromEntries" 1 fromEntries]

def prototype : StandardObject where
  place := .objectPrototype
  parent := none
  features :=
    [.method "toString" 0 toString,
     .method "toLocaleString" 0 toLocaleString,
     .method "valueOf" 0 valueOf,
     .method "hasOwnProperty" 1 hasOwnProperty,
     .method "isPrototypeOf" 1 isPrototypeOf,
     .method "propertyIsEnumerable" 1 propertyIsEnumerable,
     .accessor "__proto__" readProto writeProto,
     .method "__defineGetter__" 2 (defineHalf true),
     .method "__defineSetter__" 2 (defineHalf false),
     .method "__lookupGetter__" 1 (lookupHalf true),
     .method "__lookupSetter__" 1 (lookupHalf false)]

end ObjectMethods

end SnippetService.Script.Library
