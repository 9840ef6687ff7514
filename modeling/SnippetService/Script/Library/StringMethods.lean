import SnippetService.Text.Casing
import SnippetService.Script.Library.ArrayMethods
/-!
The constructor `String` and what strings inherit. Positions count 16-bit units.
-/
namespace SnippetService.Script.Library

open Run Evaluate

namespace StringMethods

/-- The receiver's text. -/
def receiver (c : NativeCall) : Run Units := do
  if c.this.isNullish then fail .forbiddenReceiver else toText c.this

def construct : Action := fun c => do
  let text ← if c.args.isEmpty then pure {} else
    match c.newTarget.isUndefined, c.arg 0 with
    | true, .symbol id => SymbolMethods.shown id
    | _, v => toText v
  if c.newTarget.isUndefined then return .string text
  else wrapped c .stringPrototype (.string text)

def thisString (v : Value) : Run Units := do
  match v with
  | .string s => return s
  | .object ref => match ← kindOf ref with
    | .string s => return s
    | _ => fail (.mixedWrong "string")
  | _ => fail (.mixedWrong "string")

def fromCharCode : Action := fun c => do
  let units ← c.args.toList.mapM fun v => do
    return UInt16.ofNat ((← toUint32 v) % 65536)
  return .string (.ofList units)

def fromCodePoint : Action := fun c => do
  let texts ← c.args.toList.mapM fun v => do
    let x ← toNumber v
    if !NumberMethods.isWhole (.number x) || x < 0.0 || 1114111.0 < x then fail .invalidCodePoint
    else return Units.ofCodePoint (NumberText.toInt x).toNat
  return .string (texts.foldl (· ++ ·) {})

/-- The raw texts of a template with values between them. -/
def raw : Action := fun c => do
  let site ← toObject (c.arg 0)
  let texts ← toObject (← get (.object site) "raw")
  let n ← lengthOf (.object texts)
  let rec go : Nat → Nat → Units → Run Units
    | 0, _, found => return found
    | k + 1, i, found => do
      step
      let t ← toText (← get (.object texts) (.index i))
      let v ← if i + 1 < n && i + 1 < c.args.size then toText (c.arg (i + 1)) else pure {}
      go k (i + 1) (found ++ t ++ v)
  return .string (← go n 0 {})

/-- A position in a text, if it is one. -/
def position (v : Value) (s : Units) : Run (Option Nat) := do
  let i ← toInteger v
  return if 0 ≤ i && i < s.size then some i.toNat else none

def charAt : Action := fun c => do
  let s ← receiver c
  match ← position (c.arg 0) s with
  | some i => return .string (s.slice i (i + 1))
  | none => return .string {}

def charCodeAt : Action := fun c => do
  let s ← receiver c
  match ← position (c.arg 0) s with
  | some i => return .ofNat (s.unit i)
  | none => return .number (0.0 / 0.0)

def codePointAt : Action := fun c => do
  let s ← receiver c
  match ← position (c.arg 0) s with
  | some i => return .ofNat (s.codePointAt i).1
  | none => return .undefined

def concat : Action := fun c => do
  let s ← receiver c
  return .string (← c.args.toList.foldlM (fun found v => return found ++ (← toText v)) s)

/-- The text to search for; a regular expression is refused. -/
def needle (v : Value) : Run Units := do
  let isRegexp ← match v with
    | .object ref =>
      match ← get v WellKnown.match.key with
      | .undefined => match ← kindOf ref with
        | .regexp _ _ => pure true
        | _ => pure false
      | flag => pure flag.truthy
    | _ => pure false
  if isRegexp then fail .regexpNotSupported else toText v

/-- A position that is cut off at the ends of a text. -/
def clampedPosition (v : Value) (s : Units) (standard : Nat) : Run Nat := do
  if v.isUndefined then return standard else return clamp (← toInteger v) s.size

def includes : Action := fun c => do
  let s ← receiver c
  let t ← needle (c.arg 0)
  let start ← clampedPosition (c.arg 1) s 0
  return .boolean (s.indexOf? t start).isSome

def startsWith : Action := fun c => do
  let s ← receiver c
  let t ← needle (c.arg 0)
  return .boolean (s.matchesAt (← clampedPosition (c.arg 1) s 0) t)

def endsWith : Action := fun c => do
  let s ← receiver c
  let t ← needle (c.arg 0)
  let stop ← clampedPosition (c.arg 1) s s.size
  return .boolean (t.size ≤ stop && s.matchesAt (stop - t.size) t)

def indexOf : Action := fun c => do
  let s ← receiver c
  let t ← toText (c.arg 0)
  let start ← clampedPosition (c.arg 1) s 0
  return ArrayMethods.indexResult (s.indexOf? t start)

def lastIndexOf : Action := fun c => do
  let s ← receiver c
  let t ← toText (c.arg 0)
  let x ← toNumber (c.arg 1)
  let start := if x.isNaN then s.size else clamp (NumberText.toInt x) s.size
  if s.size < t.size then return .number (-1.0)
  else return ArrayMethods.indexResult (s.lastIndexOf? t (min start (s.size - t.size)))

def slice : Action := fun c => do
  let s ← receiver c
  let start ← relativeIndex (c.arg 0) s.size
  let stop ← if (c.arg 1).isUndefined then pure s.size else relativeIndex (c.arg 1) s.size
  return .string (s.slice start stop)

def substring : Action := fun c => do
  let s ← receiver c
  let a ← clampedPosition (c.arg 0) s 0
  let b ← clampedPosition (c.arg 1) s s.size
  return .string (s.slice (min a b) (max a b))

def substr : Action := fun c => do
  let s ← receiver c
  let start ← relativeIndex (c.arg 0) s.size
  let count ← if (c.arg 1).isUndefined then pure (s.size - start)
    else pure (clamp (← toInteger (c.arg 1)) (s.size - start))
  return .string (s.slice start (start + count))

def «repeat» : Action := fun c => do
  let s ← receiver c
  let x ← toNumber (c.arg 0)
  let n := NumberText.toInt x
  if n < 0 || 2147483647 < n then fail .invalidRepeat
  else if 536870911 < n.toNat * s.size then fail .stringTooLong
  else if s.isEmpty then return .string {}
  else return .string (.replicate n.toNat s)

def pad (atEnd : Bool) : Action := fun c => do
  let s ← receiver c
  let width ← toLength (c.arg 0)
  let filler ← if (c.arg 1).isUndefined then pure (" " : Units) else toText (c.arg 1)
  if width ≤ s.size || filler.isEmpty then return .string s
  else if 536870911 < width then fail .stringTooLong
  else
    let missing := width - s.size
    let padding := (Units.replicate (missing / filler.size + 1) filler).slice 0 missing
    return .string (if atEnd then s ++ padding else padding ++ s)

def trim (start stop : Bool) : Action := fun c => do
  let s ← receiver c
  let first := if start then NumberText.skipSpaces s s.size 0 else 0
  let last := if stop then NumberText.trimEnd s first s.size else s.size
  return .string (s.slice first (max first last))

/-- Text with its code points mapped together. -/
def mapPoints (f : List Nat → List Nat) (s : Units) : Units :=
  (f s.codePoints).foldl (fun found n => found ++ Units.ofCodePoint n) {}

def toLower : Action := fun c => return .string (mapPoints Casing.lowerAll (← receiver c))

def toUpper : Action := fun c => return .string (mapPoints Casing.upperAll (← receiver c))

def localeCompare : Action := fun c => do
  let s ← receiver c
  let t ← toText (c.arg 0)
  return .number (if s.lt t then -1.0 else if t.lt s then 1.0 else 0.0)

def normalize : Action := fun c => do
  let s ← receiver c
  let form ← if (c.arg 0).isUndefined then pure ("NFC" : Units) else toText (c.arg 0)
  if ["NFC", "NFD", "NFKC", "NFKD"].any fun f => form == f then return .string s
  else fail .invalidNormalization

/-- The method that an argument brings along for a well-known symbol. -/
def ownMethod (v : Value) (w : WellKnown) : Run (Option Value) :=
  if v.isNullish then return none else getMethod v w.key

/-- The parts of a text between separators. -/
def parts (s separator : Units) : Nat → Nat → List Units → List Units
  | 0, _, found => found.reverse
  | fuel + 1, p, found =>
    match s.indexOf? separator p with
    | some e => parts s separator fuel (e + separator.size) (s.slice p e :: found)
    | none => (s.slice p s.size :: found).reverse

def splitUnits (s separator : Units) : List Units :=
  if separator.isEmpty then s.toList.map fun u => ⟨#[u]⟩
  else parts s separator (s.size + 1) 0 []

def split : Action := fun c => do
  if c.this.isNullish then fail .toObject
  else match ← ownMethod (c.arg 0) .split with
    | some f => call f (c.arg 0) #[c.this, c.arg 1]
    | none =>
      let s ← toText c.this
      let limit ← if (c.arg 1).isUndefined then pure 4294967295 else toUint32 (c.arg 1)
      let separator ← toText (c.arg 0)
      if limit == 0 then newArray #[]
      else if (c.arg 0).isUndefined then newArray #[.string s]
      else newArray (((splitUnits s separator).take limit).map Value.string).toArray

/-- What a `$` in a replacement stands for: its text and the number of units after the `$`. -/
def substitution (s matched : Units) (start : Nat) (groups : List Value) (named : Value)
    (t : Units) (i : Nat) : Run (Option (Units × Nat)) := do
  let group (n count : Nat) : Run (Option (Units × Nat)) := do
    if n == 0 then return none
    else match groups[n - 1]? with
      | some .undefined => return some ({}, count)
      | some v => return some (← toText v, count)
      | none => return none
  let c := t.unit (i + 1)
  let digit (c : Nat) : Option Nat := if 48 ≤ c && c ≤ 57 then some (c - 48) else none
  if t.size ≤ i + 1 then return none
  else if c == 36 then return some ("$", 1)
  else if c == 38 then return some (matched, 1)
  else if c == 0x60 then return some (s.slice 0 start, 1)
  else if c == 39 then return some (s.slice (min s.size (start + matched.size)) s.size, 1)
  else if c == 60 && !named.isUndefined then
    match t.indexOf? ">" (i + 2) with
    | some e =>
      match ← get named (Key.ofUnits (t.slice (i + 2) e)) with
      | .undefined => return some ({}, e - i)
      | v => return some (← toText v, e - i)
    | none => return none
  else match digit c with
    | none => return none
    | some d =>
      let two ← match (if i + 2 < t.size then digit (t.unit (i + 2)) else none) with
        | some e => group (d * 10 + e) 2
        | none => pure none
      match two with
      | some r => return some r
      | none => group d 1

/-- The text of a replacement with its marks filled in. -/
def expand (s matched : Units) (start : Nat) (groups : List Value) (named : Value) (t : Units) :
    Run Units :=
  go (t.size + 1) 0 {}
where
  go : Nat → Nat → Units → Run Units
    | 0, _, found => return found
    | fuel + 1, i, found => do
      if t.size ≤ i then return found
      else
        let filled ← if t.unit i == 36 then substitution s matched start groups named t i
          else pure none
        match filled with
        | some (text, count) => go fuel (i + 1 + count) (found ++ text)
        | none => go fuel (i + 1) (found ++ t.slice i (i + 1))

/-- The places where a text stands in another, not overlapping. -/
def places (s t : Units) : Nat → Nat → List Nat → List Nat
  | 0, _, found => found.reverse
  | fuel + 1, p, found =>
    match s.indexOf? t p with
    | some e => places s t fuel (e + max 1 t.size) (e :: found)
    | none => found.reverse

def replace (all : Bool) : Action := fun c => do
  if c.this.isNullish then fail .toObject
  else
    let method ← ownMethod (c.arg 0) .replace
    if all then
      match c.arg 0 with
      | .object ref => match ← kindOf ref with
        | .regexp _ _ =>
          let flags ← toText (← get (c.arg 0) "flags")
          if (flags.indexOf? "g" 0).isNone then fail .globalRequired
        | _ => pure ()
      | _ => pure ()
    match method with
    | some f => call f (c.arg 0) #[c.this, c.arg 1]
    | none =>
      let s ← toText c.this
      let t ← toText (c.arg 0)
      let byFunction ← isCallable (c.arg 1)
      let template ← if byFunction then pure {} else toText (c.arg 1)
      let found := places s t (s.size + 2) 0 []
      let found := if all then found else found.take 1
      let (text, stop) ← found.foldlM (fun (acc : Units × Nat) e => do
        let filled ← if byFunction then
            toText (← call (c.arg 1) .undefined #[.string t, .ofNat e, .string s])
          else expand s t e [] .undefined template
        return (acc.1 ++ s.slice acc.2 e ++ filled, e + t.size)) ({}, 0)
      return .string (text ++ s.slice stop s.size)

/-- A method that a regular expression does, made from the argument if it is none. -/
def byRegexp (w : WellKnown) (flags : Units) : Action := fun c => do
  if c.this.isNullish then fail .toObject
  else match ← ownMethod (c.arg 0) w with
    | some f => call f (c.arg 0) #[c.this]
    | none =>
      let s ← toText c.this
      let ctor ← get Intrinsic.global.value "RegExp"
      let first := if (c.arg 0).isUndefined then #[] else #[c.arg 0]
      let args := if flags.isEmpty then first
        else #[first.getD 0 (.string "(?:)"), .string flags]
      invoke (← Run.construct ctor args ctor) w.key #[.string s]

def iteratorOf : Action := fun c => do
  let s ← receiver c
  allocValue
    { proto := some Intrinsic.stringIteratorPrototype.ref, kind := .stringIterator s 0 }

def next : Action := fun c => do
  let ref ← objectArg c.this
  match ← kindOf ref with
  | .stringIterator s i =>
    if s.size ≤ i then iterResult .undefined true
    else
      let (_, n) := s.codePointAt i
      setKind ref (.stringIterator s (i + n))
      iterResult (.string (s.slice i (i + n))) false
  | _ => fail (.badReceiver "String Iterator")

/-- A method that wraps the text in an element. -/
def element (tag field : String) : Action := fun c => do
  let s ← receiver c
  let opening ← if field.isEmpty then pure ("<" ++ tag : Units) else do
    let v ← toText (c.arg 0)
    let quoted := Units.join "&quot;" (splitUnits v "\"")
    pure (("<" ++ tag ++ " " ++ field ++ "=\"" : Units) ++ quoted ++ "\"")
  return .string (opening ++ ">" ++ s ++ ("</" ++ tag ++ ">" : String))

def standardClass : StandardClass where
  name := "String"
  arity := 1
  prototype := some .stringPrototype
  run := construct
  statics :=
    [.method "fromCharCode" 1 fromCharCode,
     .method "fromCodePoint" 1 fromCodePoint,
     .method "raw" 1 raw]

def elements : List (String × String) :=
  [("anchor", "name"), ("big", ""), ("blink", ""), ("bold", ""), ("fixed", ""),
    ("fontcolor", "color"), ("fontsize", "size"), ("italics", ""), ("link", "href"),
    ("small", ""), ("strike", ""), ("sub", ""), ("sup", "")]

/-- The element that a method of some name makes. -/
def elementName (name : String) : String :=
  match name with
  | "anchor" => "a"
  | "bold" => "b"
  | "fixed" => "tt"
  | "fontcolor" | "fontsize" => "font"
  | "italics" => "i"
  | "link" => "a"
  | _ => name

def prototype : StandardObject where
  place := .stringPrototype
  kind := .string {}
  features :=
    [.method "charCodeAt" 1 charCodeAt,
     .method "charAt" 1 charAt,
     .method "concat" 1 concat,
     .method "codePointAt" 1 codePointAt,
     .method "indexOf" 1 indexOf,
     .method "lastIndexOf" 1 lastIndexOf,
     .method "includes" 1 includes,
     .method "endsWith" 1 endsWith,
     .method "startsWith" 1 startsWith,
     .method "match" 1 (byRegexp .match {}),
     .method "matchAll" 1 (byRegexp .matchAll "g"),
     .method "search" 1 (byRegexp .search {}),
     .method "split" 2 split,
     .method "substring" 2 substring,
     .method "substr" 2 substr,
     .method "slice" 2 slice,
     .method "repeat" 1 «repeat»,
     .method "replace" 2 (replace false),
     .method "replaceAll" 2 (replace true),
     .method "padEnd" 1 (pad true),
     .method "padStart" 1 (pad false),
     .method "trim" 0 (trim true true),
     .method "trimEnd" 0 (trim false true),
     .method "trimStart" 0 (trim true false),
     .method "trimRight" 0 (trim false true),
     .method "trimLeft" 0 (trim true false),
     .method "toString" 0 fun c => return .string (← thisString c.this),
     .method "valueOf" 0 fun c => return .string (← thisString c.this),
     .method "localeCompare" 1 localeCompare,
     .method "normalize" 0 normalize,
     .method "toLowerCase" 0 toLower,
     .method "toUpperCase" 0 toUpper,
     .method "toLocaleLowerCase" 0 toLower,
     .method "toLocaleUpperCase" 0 toUpper,
     .method WellKnown.iterator.key 0 iteratorOf] ++
      elements.map fun (name, field) =>
        .method name (if field.isEmpty then 0 else 1) (element (elementName name) field)

def iteratorPrototype : StandardObject where
  place := .stringIteratorPrototype
  parent := some .iteratorPrototype
  features := [.method "next" 0 next, .tag "String Iterator"]

end StringMethods

end SnippetService.Script.Library
