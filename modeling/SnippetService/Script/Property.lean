import SnippetService.Script.Run
/-!
Properties of objects: finding, reading, writing, defining, deleting and listing them. Arrays keep
their leading elements together, strings have their units as properties, and a proxy asks its handler
first.
-/
namespace SnippetService.Script

namespace Value

/-- Whether a value counts as true. -/
def truthy : Value → Bool
  | undefined | null => false
  | boolean b => b
  | number x => !(x == 0.0 || x != x)
  | string s => !s.isEmpty
  | bigint n => n != 0
  | symbol _ | object _ => true

def isNullish : Value → Bool
  | undefined | null => true
  | _ => false

def isUndefined : Value → Bool
  | undefined => true
  | _ => false

def isObject : Value → Bool
  | object _ => true
  | _ => false

/-- A whole number as a value. -/
def ofNat (n : Nat) : Value := number (Float.ofNat n)

/-- The comparison of `===`: a NaN differs from itself, and the two zeros are equal. -/
def strictEq : Value → Value → Bool
  | undefined, undefined => true
  | null, null => true
  | boolean a, boolean b => a == b
  | number a, number b => a == b
  | string a, string b => a == b
  | symbol a, symbol b => a == b
  | bigint a, bigint b => a == b
  | object a, object b => a == b
  | _, _ => false

/-- The comparison that finds keys of collections: a NaN equals itself. -/
def sameZero (a b : Value) : Bool :=
  match a, b with
  | number x, number y => x == y || (x != x && y != y)
  | _, _ => strictEq a b

/-- The comparison that tells all values apart: the two zeros differ. -/
def same (a b : Value) : Bool :=
  match a, b with
  | number x, number y => if x != x then y != y else x.toBits == y.toBits
  | _, _ => strictEq a b

end Value

/-- What is asked of a property. What is left out stays as it is, or is off in a new one. -/
structure Descriptor where
  value : Option Value := none
  getter : Option Value := none
  setter : Option Value := none
  writable : Option Bool := none
  enumerable : Option Bool := none
  configurable : Option Bool := none

namespace Descriptor

def isAccessor (d : Descriptor) : Bool := d.getter.isSome || d.setter.isSome

def isData (d : Descriptor) : Bool := d.value.isSome || d.writable.isSome

/-- A descriptor that fixes everything about a property. -/
def ofEntry : Entry → Descriptor
  | .data v w e c =>
    { value := some v, writable := some w, enumerable := some e, configurable := some c }
  | .accessor g s e c =>
    { getter := some g, setter := some s, enumerable := some e, configurable := some c }

/-- The property that a descriptor makes where there was none. -/
def toEntry (d : Descriptor) : Entry :=
  if d.isAccessor then
    .accessor (d.getter.getD .undefined) (d.setter.getD .undefined) (d.enumerable.getD false)
      (d.configurable.getD false)
  else
    .data (d.value.getD .undefined) (d.writable.getD false) (d.enumerable.getD false)
      (d.configurable.getD false)

/-- Whether a property that is not configurable admits a change. -/
def admits (d : Descriptor) (e : Entry) : Bool :=
  d.configurable != some true && (d.enumerable.isNone || d.enumerable == some e.enumerable) &&
    match e with
    | .data v w _ _ =>
      !d.isAccessor && (w || (d.writable != some true &&
        match d.value with
        | some u => Value.same u v
        | none => true))
    | .accessor g s _ _ =>
      !d.isData &&
        (match d.getter with | some u => Value.same u g | none => true) &&
        (match d.setter with | some u => Value.same u s | none => true)

/-- An existing property after a change. -/
def apply (d : Descriptor) (e : Entry) : Entry :=
  let enumerable := d.enumerable.getD e.enumerable
  let configurable := d.configurable.getD e.configurable
  match e with
  | .data v w _ _ =>
    if d.isAccessor then
      .accessor (d.getter.getD .undefined) (d.setter.getD .undefined) enumerable configurable
    else .data (d.value.getD v) (d.writable.getD w) enumerable configurable
  | .accessor g s _ _ =>
    if d.isData then
      .data (d.value.getD .undefined) (d.writable.getD false) enumerable configurable
    else .accessor (d.getter.getD g) (d.setter.getD s) enumerable configurable

end Descriptor

namespace Obj

def find? (o : Obj) (k : Key) : Option Entry := (o.entries.find? fun e => e.1 == k).map (·.2)

/-- The key of the property that holds a length. -/
def lengthKey : Key := "length"

/-- A property of the object itself. -/
def own? (o : Obj) (k : Key) : Option Entry :=
  match o.kind with
  | .array elements length writable =>
    match k with
    | .index n => match elements[n]? with
      | some v => some (.plain v)
      | none => o.find? k
    | .name _ =>
      if k == lengthKey then some (.data (.ofNat length) writable false false) else o.find? k
    | _ => o.find? k
  | .string s =>
    match k with
    | .index n => match s.get? n with
      | some u => some (.data (.string ⟨#[u]⟩) false true false)
      | none => o.find? k
    | .name _ =>
      if k == lengthKey then some (.data (.ofNat s.size) false false false) else o.find? k
    | _ => o.find? k
  | _ => o.find? k

/-- Put a property in its place, or at the end if it is new. -/
def put (o : Obj) (k : Key) (e : Entry) : Obj :=
  match o.entries.findIdx? fun x => x.1 == k with
  | some i => { o with entries := o.entries.set! i (k, e) }
  | none => { o with entries := o.entries.push (k, e) }

/-- Give up the separate place of the leading elements. -/
def spill (o : Obj) : Obj :=
  match o.kind with
  | .array elements length writable =>
    { o with
      kind := .array #[] length writable
      entries := o.entries ++ elements.mapIdx fun i v => (Key.index i, Entry.plain v) }
  | _ => o

/-- Store a property of an array's index, keeping the elements that lead together. -/
def putIndex (o : Obj) (n : Nat) (e : Entry) : Obj :=
  match o.kind with
  | .array elements length writable =>
    let o := { o with kind := .array #[] 0 false }
    match e with
    | .data v true true true =>
      if n < elements.size then { o with kind := .array (elements.set! n v) length writable }
      else if n == elements.size && (o.find? (.index n)).isNone then
        { o with kind := .array (elements.push v) (max length (n + 1)) writable }
      else put { o with kind := .array elements (max length (n + 1)) writable } (.index n) e
    | _ =>
      let o := { o with kind := .array elements (max length (n + 1)) writable }
      put (if n < elements.size then o.spill else o) (.index n) e
  | _ => o.put (.index n) e

/-- Store a property. -/
def store (o : Obj) (k : Key) (e : Entry) : Obj :=
  match k with
  | .index n => o.putIndex n e
  | _ => o.put k e

/-- Take a property away. -/
def remove (o : Obj) (k : Key) : Obj :=
  let o := match o.kind, k with
    | .array elements length writable, .index n =>
      if n + 1 == elements.size then { o with kind := .array elements.pop length writable }
      else if n < elements.size then o.spill
      else o
    | _, _ => o
  match o.entries.findIdx? fun x => x.1 == k with
  | some i => { o with entries := o.entries.eraseIdxIfInBounds i }
  | none => o

/-- Shorten or lengthen an array. An element that cannot be removed stops the shortening; the result
tells whether none did. -/
def setLength (o : Obj) (n : Nat) : Obj × Bool :=
  match o.kind with
  | .array elements length writable =>
    if length ≤ n then ({ o with kind := .array elements n writable }, true)
    else
      let fixed := o.entries.foldl (fun acc (k, e) => match k with
        | .index i => if n ≤ i && !e.configurable then max acc (i + 1) else acc
        | _ => acc) n
      let entries := o.entries.filter fun (k, _) => match k with
        | .index i => i < fixed
        | _ => true
      ({ o with entries := entries, kind := .array (elements.take fixed) fixed writable },
        fixed == n)
  | _ => (o, true)

/-- The keys of the object's own properties: indexes in ascending order, then names, then symbols,
each as they were added. -/
def keys (o : Obj) : List Key :=
  let leading : List Key := match o.kind with
    | .array elements _ _ => (List.range elements.size).map .index
    | .string s => (List.range s.size).map .index
    | _ => []
  let special : List Key := match o.kind with
    | .array _ _ _ | .string _ => [lengthKey]
    | _ => []
  let all := o.entries.toList.map (·.1)
  let indexes := all.filterMap fun k => match k with
    | .index n => some n
    | _ => none
  let names := all.filter fun k => match k with
    | .name _ => true
    | _ => false
  let symbols := all.filter fun k => match k with
    | .symbol _ => true
    | _ => false
  leading ++ (indexes.mergeSort (· ≤ ·)).map .index ++ special ++ names ++ symbols

end Obj

namespace Run

/-- How many objects a search along prototypes and proxies may pass. -/
def chainLimit : Nat := 2000

def isCallable (v : Value) : Run Bool := do
  match v with
  | .object ref => return match ← kindOf ref with
    | .closure _ | .native _ _ _ | .bound _ _ _ => true
    | .proxy _ callable _ => callable
    | _ => false
  | _ => return false

/-- Read a property along the prototypes of an object. -/
def getFrom : Nat → Nat → Key → Value → Run Value
  | 0, _, _, _ => fail .stackOverflow
  | n + 1, ref, k, receiver => do
    let o ← obj ref
    match o.kind with
    | .proxy none _ _ => fail .revokedProxy
    | .proxy (some (target, handler)) _ _ =>
      let trap ← getFrom n handler "get" (.object handler)
      if trap.isNullish then getFrom n target k receiver
      else call trap (.object handler) #[.object target, k.toValue, receiver]
    | _ =>
      match o.own? k with
      | some (.data v _ _ _) => return v
      | some (.accessor g _ _ _) =>
        if g.isUndefined then return .undefined else call g receiver #[]
      | none => match o.proto with
        | none => return .undefined
        | some p => getFrom n p k receiver

/-- The prototype that the properties of a value without properties of its own come from. -/
def primitivePrototype : Value → Option Intrinsic
  | .boolean _ => some .booleanPrototype
  | .number _ => some .numberPrototype
  | .string _ => some .stringPrototype
  | .symbol _ => some .symbolPrototype
  | .bigint _ => some .bigintPrototype
  | _ => none

/-- Read a property of a value. -/
def get (v : Value) (k : Key) : Run Value := do
  match v with
  | .object ref => getFrom chainLimit ref k v
  | .undefined => fail (.readOf (← keyText k) "undefined")
  | .null => fail (.readOf (← keyText k) "null")
  | .string s =>
    match k with
    | .index n => match s.get? n with
      | some u => return .string ⟨#[u]⟩
      | none => getFrom chainLimit Intrinsic.stringPrototype.ref k v
    | _ =>
      if k == Obj.lengthKey then return .ofNat s.size
      else getFrom chainLimit Intrinsic.stringPrototype.ref k v
  | _ => match primitivePrototype v with
    | some p => getFrom chainLimit p.ref k v
    | none => return .undefined

/-- A method of a value, if there is one; anything else that is there is refused. -/
def getMethod (v : Value) (k : Key) : Run (Option Value) := do
  let f ← get v k
  if f.isNullish then return none
  else if ← isCallable f then return some f
  else fail .notAFunction

/-- Call a method of a value. -/
def invoke (v : Value) (k : Key) (args : Array Value) : Run Value := do
  let f ← get v k
  call f v args

/-- The function a proxy's handler has for an operation, if any, with the proxy's parts. -/
def trapOf (ref : Nat) (name : String) : Run (Option (Nat × Nat × Option Value)) := do
  match ← kindOf ref with
  | .proxy none _ _ => fail .revokedProxy
  | .proxy (some (target, handler)) _ _ =>
    return some (target, handler, ← getMethod (.object handler) name)
  | _ => return none

def hasOwnField (ref : Nat) (n : Nat) (k : Key) : Run Bool := do
  match n with
  | 0 => return false
  | n + 1 =>
    let o ← obj ref
    if (o.own? k).isSome then return true
    else match o.proto with
      | none => return false
      | some p => hasOwnField p n k

/-- Read a descriptor from an object. -/
def toDescriptor (v : Value) : Run Descriptor := do
  match v with
  | .object ref =>
    let field (k : Key) : Run (Option Value) := do
      if ← hasOwnField ref chainLimit k then return some (← get v k) else return none
    let configurable ← field "configurable"
    let enumerable ← field "enumerable"
    let value ← field "value"
    let writable ← field "writable"
    let getter ← field "get"
    match getter with
    | some g => if !g.isUndefined && !(← isCallable g) then fail .invalidGetter
    | none => pure ()
    let setter ← field "set"
    match setter with
    | some g => if !g.isUndefined && !(← isCallable g) then fail .invalidSetter
    | none => pure ()
    if (getter.isSome || setter.isSome) && (value.isSome || writable.isSome) then
      fail .mixedDescriptor
    else
      return {
        value := value, getter := getter, setter := setter
        writable := writable.map (·.truthy), enumerable := enumerable.map (·.truthy)
        configurable := configurable.map (·.truthy) }
  | _ => fail .notAnObject

/-- The object that describes a property. -/
def describe (e : Entry) : Run Value := do
  let ref ← newObject
  let put (k : Key) (v : Value) : Run Unit := modifyObj ref fun o => o.put k (.plain v)
  match e with
  | .data v w en c =>
    put "value" v
    put "writable" (.boolean w)
    put "enumerable" (.boolean en)
    put "configurable" (.boolean c)
  | .accessor g s en c =>
    put "get" g
    put "set" s
    put "enumerable" (.boolean en)
    put "configurable" (.boolean c)
  return .object ref

/-- A property of an object itself. -/
def getOwn : Nat → Nat → Key → Run (Option Entry)
  | 0, _, _ => fail .stackOverflow
  | n + 1, ref, k => do
    match ← trapOf ref "getOwnPropertyDescriptor" with
    | none => return (← obj ref).own? k
    | some (target, _, none) => getOwn n target k
    | some (target, handler, some trap) =>
      let v ← call trap (.object handler) #[.object target, k.toValue]
      match v with
      | .undefined => return none
      | .object _ => return some (← toDescriptor v).toEntry
      | _ => fail (.proxyFailed "proxy: inconsistent getOwnPropertyDescriptor")

def own? (ref : Nat) (k : Key) : Run (Option Entry) := getOwn chainLimit ref k

def prototypeOf : Nat → Nat → Run (Option Nat)
  | 0, _ => fail .stackOverflow
  | n + 1, ref => do
    match ← trapOf ref "getPrototypeOf" with
    | none => return (← obj ref).proto
    | some (target, _, none) => prototypeOf n target
    | some (target, handler, some trap) =>
      match ← call trap (.object handler) #[.object target] with
      | .object p => return some p
      | .null => return none
      | _ => fail (.proxyFailed "proxy: inconsistent prototype")

def proto? (ref : Nat) : Run (Option Nat) := prototypeOf chainLimit ref

/-- Whether an object has a property, its own or inherited. -/
def hasFrom : Nat → Nat → Key → Run Bool
  | 0, _, _ => fail .stackOverflow
  | n + 1, ref, k => do
    match ← trapOf ref "has" with
    | some (target, _, none) => hasFrom n target k
    | some (target, handler, some trap) =>
      return (← call trap (.object handler) #[.object target, k.toValue]).truthy
    | none =>
      let o ← obj ref
      if (o.own? k).isSome then return true
      else match o.proto with
        | none => return false
        | some p => hasFrom n p k

def has (ref : Nat) (k : Key) : Run Bool := hasFrom chainLimit ref k

def isExtensibleFrom : Nat → Nat → Run Bool
  | 0, _ => fail .stackOverflow
  | n + 1, ref => do
    match ← trapOf ref "isExtensible" with
    | none => return (← obj ref).extensible
    | some (target, _, none) => isExtensibleFrom n target
    | some (target, handler, some trap) =>
      return (← call trap (.object handler) #[.object target]).truthy

/-- Whether one object is among the prototypes of another. -/
def inheritsFrom : Nat → Nat → Nat → Run Bool
  | 0, _, _ => return false
  | n + 1, ref, ancestor => do
    if ref == ancestor then return true
    else match ← kindOf ref with
      | .proxy _ _ _ => return false
      | _ => match (← obj ref).proto with
        | some p => inheritsFrom n p ancestor
        | none => return false

/-- Report a refusal: strict callers are stopped, others are told. -/
def refuse (strict : Bool) (fault : Fault) : Run Bool := do
  if strict then fail fault else return false

/-- Give an object another prototype. -/
def setPrototype (ref : Nat) (proto : Option Nat) (strict : Bool) : Run Bool := do
  match ← trapOf ref "setPrototypeOf" with
  | some (target, handler, some trap) =>
    let p : Value := match proto with
      | some p => .object p
      | none => .null
    let ok := (← call trap (.object handler) #[.object target, p]).truthy
    if ok then return true else refuse strict (.proxyFailed "proxy: bad prototype")
  | some (target, _, none) =>
    modifyObj target fun o => { o with proto := proto }
    return true
  | none =>
    let o ← obj ref
    if o.proto == proto then return true
    else if !o.extensible then refuse strict .notExtensible
    else
      let circular ← match proto with
        | some p => inheritsFrom chainLimit p ref
        | none => pure false
      if circular then refuse strict .circularPrototype
      else
        modifyObj ref fun o => { o with proto := proto }
        return true

/-- Set an array's length as a property definition asks. -/
def defineLength (ref : Nat) (d : Descriptor) (n : Option Nat) (strict : Bool) : Run Bool := do
  let o ← obj ref
  match o.kind with
  | .array _ length writable =>
    let n := n.getD length
    let forbidden := d.configurable == some true || d.enumerable == some true || d.isAccessor ||
      (!writable && (d.writable == some true || n != length))
    if forbidden then refuse strict .notConfigurable
    else
      let (_, complete) := o.setLength n
      modifyObj ref fun o =>
        let o := (o.setLength n).1
        match o.kind with
        | .array elements length w => { o with kind := .array elements length (w && d.writable != some false) }
        | _ => o
      if complete then return true else refuse strict .notConfigurable
  | _ => return true

/-- Define a property of an object that is no proxy. A length that is not a whole number has been
refused before. -/
def defineOrdinary (ref : Nat) (k : Key) (d : Descriptor) (strict : Bool) : Run Bool := do
  let o ← obj ref
  let isLength := match o.kind with
    | .array _ _ _ => k == Obj.lengthKey
    | _ => false
  if isLength then
    let n := match d.value with
      | some (.number x) => some x.toUInt64.toNat
      | _ => none
    defineLength ref d n strict
  else match o.own? k with
    | some e =>
      if !e.configurable && !d.admits e then refuse strict .notConfigurable
      else
        modifyObj ref fun o => o.store k (d.apply e)
        return true
    | none =>
      let pastEnd := match o.kind, k with
        | .array _ length false, .index n => decide (length ≤ n)
        | _, _ => false
      if pastEnd then refuse strict (.readOnly "length")
      else if !o.extensible then refuse strict .notExtensible
      else
        modifyObj ref fun o => o.store k d.toEntry
        return true

/-- Define a property. -/
def defineFrom : Nat → Nat → Key → Descriptor → Bool → Run Bool
  | 0, _, _, _, _ => fail .stackOverflow
  | n + 1, ref, k, d, strict => do
    match ← trapOf ref "defineProperty" with
    | none => defineOrdinary ref k d strict
    | some (target, _, none) => defineFrom n target k d strict
    | some (target, handler, some trap) =>
      let dref ← newObject
      let put (k : Key) (v : Option Value) : Run Unit :=
        match v with
        | some v => modifyObj dref fun o => o.put k (.plain v)
        | none => pure ()
      put "value" d.value
      put "writable" (d.writable.map .boolean)
      put "get" d.getter
      put "set" d.setter
      put "enumerable" (d.enumerable.map .boolean)
      put "configurable" (d.configurable.map .boolean)
      let ok := (← call trap (.object handler) #[.object target, k.toValue, .object dref]).truthy
      if ok then return true
      else refuse strict (.proxyFailed "proxy: defineProperty exception")

def define (ref : Nat) (k : Key) (d : Descriptor) (strict : Bool) : Run Bool :=
  defineFrom chainLimit ref k d strict

/-- Make or replace a property of the object itself. -/
def defineEntry (ref : Nat) (k : Key) (e : Entry) : Run Unit := do
  let _ ← define ref k (.ofEntry e) true

/-- Make a property as an object literal or an array does. -/
def defineValue (ref : Nat) (k : Key) (v : Value) : Run Unit := defineEntry ref k (.plain v)

/-- Call a setter. -/
def callSetter (setter receiver v : Value) (strict : Bool) : Run Bool := do
  if setter.isUndefined then refuse strict .noSetter
  else
    let _ ← call setter receiver #[v]
    return true

/-- What a search along the prototypes finds for a write. -/
inductive WritePlace where
  | setter (f : Value)
  | readOnly
  | free
  /-- A proxy decides. -/
  | proxy (ref : Nat)

/-- Look for what a write of a property meets, from an object on along its prototypes. -/
def findWrite : Nat → Nat → Key → Run WritePlace
  | 0, _, _ => fail .stackOverflow
  | n + 1, ref, k => do
    let o ← obj ref
    match o.kind with
    | .proxy _ _ _ => return .proxy ref
    | _ => match o.own? k with
      | some (.accessor _ s _ _) => return .setter s
      | some (.data _ w _ _) => return if w then .free else .readOnly
      | none => match o.proto with
        | none => return .free
        | some p => findWrite n p k

/-- Write a property of an object, which `receiver` stands for. -/
def putFrom : Nat → Nat → Key → Value → Value → Bool → Run Bool
  | 0, _, _, _, _, _ => fail .stackOverflow
  | n + 1, ref, k, v, receiver, strict => do
    let place ← findWrite chainLimit ref k
    match place with
    | .setter f => callSetter f receiver v strict
    | .readOnly => refuse strict (.readOnly (← keyText k))
    | .proxy p =>
      match ← trapOf p "set" with
      | some (target, handler, some trap) =>
        let ok := (← call trap (.object handler) #[.object target, k.toValue, v, receiver]).truthy
        if ok then return true else refuse strict (.proxyFailed "proxy: cannot set property")
      | some (target, _, none) => putFrom n target k v receiver strict
      | none => return false
    | .free =>
      match receiver with
      | .object r =>
        let o ← obj r
        let isProxy := match o.kind with
          | .proxy _ _ _ => true
          | _ => false
        if isProxy then
          match ← own? r k with
          | some _ => define r k { value := some v } strict
          | none => define r k (.ofEntry (.plain v)) strict
        else match o.own? k with
          | some (.data _ w e c) =>
            match o.kind, k == Obj.lengthKey with
            | .array _ _ _, true => defineOrdinary r k { value := some v } strict
            | _, _ =>
              if !w then refuse strict (.readOnly (← keyText k))
              else
                modifyObj r fun o => o.store k (.data v w e c)
                return true
          | some (.accessor _ _ _ _) => refuse strict .noSetter
          | none =>
            let pastEnd := match o.kind, k with
              | .array _ length false, .index n => decide (length ≤ n)
              | _, _ => false
            if !o.extensible then refuse strict .notExtensible
            else if pastEnd then refuse strict (.readOnly "length")
            else
              modifyObj r fun o => o.store k (.plain v)
              return true
      | _ => refuse strict .notAnObject

/-- Delete a property of an object; the result tells whether it is gone. -/
def deleteFrom : Nat → Nat → Key → Run Bool
  | 0, _, _ => fail .stackOverflow
  | n + 1, ref, k => do
    match ← trapOf ref "deleteProperty" with
    | some (target, _, none) => deleteFrom n target k
    | some (target, handler, some trap) =>
      return (← call trap (.object handler) #[.object target, k.toValue]).truthy
    | none =>
      match (← obj ref).own? k with
      | none => return true
      | some e =>
        if e.configurable then
          modifyObj ref fun o => o.remove k
          return true
        else return false

/-- The elements of an array-like object as the list of values that a proxy's handler gives. -/
def listed : Nat → Value → Nat → List Value → Run (List Value)
  | 0, _, _, found => return found.reverse
  | n + 1, v, i, found => do
    let x ← get v (.index i)
    listed n v (i + 1) (x :: found)

/-- The keys of an object's own properties. -/
def keysFrom : Nat → Nat → Run (List Key)
  | 0, _ => fail .stackOverflow
  | n + 1, ref => do
    match ← trapOf ref "ownKeys" with
    | none => return (← obj ref).keys
    | some (target, _, none) => keysFrom n target
    | some (target, handler, some trap) =>
      let v ← call trap (.object handler) #[.object target]
      let count := match ← get v "length" with
        | .number x => min x.toUInt64.toNat 100000
        | _ => 0
      let vs ← listed count v 0 []
      vs.mapM fun x => match x with
        | .string s => return Key.ofUnits s
        | .symbol id => return Key.symbol id
        | _ => fail (.proxyFailed "proxy: properties must be strings or symbols")

def ownKeys (ref : Nat) : Run (List Key) := keysFrom chainLimit ref

/-- Whether a property of an object itself is listed by enumeration. -/
def isEnumerable (ref : Nat) (k : Key) : Run Bool := do
  match ← own? ref k with
  | some e => return e.enumerable
  | none => return false

end Run

end SnippetService.Script
