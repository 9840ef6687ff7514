import SnippetService.Numeric.Layout
import SnippetService.Script.Token
import SnippetService.Script.Property
/-!
Conversions between kinds of values: to primitives, numbers, texts, property keys and objects.
-/
namespace SnippetService.Script

namespace NumberText

/-- The whole number a double stands for, if it is one of moderate size. -/
def smallInt? (x : Float) : Option Int :=
  let n := x.toInt64
  if n.toFloat == x && -9007199254740992 < n.toInt && n.toInt < 9007199254740992 then some n.toInt
  else none

/-- The text of a number. -/
def write (x : Float) : Units :=
  match smallInt? x with
  | some n => toString n
  | none => NumberLayout.script.writeDouble x

/-- Whether a unit is skipped at the ends of a number's text. -/
def isSpace (c : Nat) : Bool := Lexeme.isBlank c || Lexeme.isLineEnd c

def skipSpaces (s : Units) : Nat → Nat → Nat
  | 0, pos => pos
  | fuel + 1, pos => if pos < s.size && isSpace (s.unit pos) then skipSpaces s fuel (pos + 1) else pos

/-- The end of a text without the blanks behind it. -/
def trimEnd (s : Units) (start : Nat) : Nat → Nat
  | 0 => 0
  | stop + 1 => if start < stop + 1 && isSpace (s.unit stop) then trimEnd s start stop else stop + 1

/-- A text without the blanks around it. -/
def trim (s : Units) : Units :=
  let start := skipSpaces s s.size 0
  s.slice start (trimEnd s start s.size)

/-- The unsigned decimal number at the start of a text, with the position after it. -/
def decimalAt (s : Units) (pos : Nat) : Option (Float × Nat) :=
  if s.matchesAt pos "Infinity" then some (1.0 / 0.0, pos + 8)
  else
    let (whole, wholeCount, next) := Lexeme.digitsFrom s 10 false s.size pos 0 0
    let (value, places, next) := if s.unit next == 46 && (0 < wholeCount || Lexeme.isDigit (s.unit (next + 1))) then
        let (value, count, next) := Lexeme.digitsFrom s 10 false s.size (next + 1) whole 0
        (value, count, next)
      else (whole, 0, next)
    if wholeCount == 0 && places == 0 then none
    else
      let c := s.unit next
      let mark := s.unit (next + 1)
      let start := if mark == 43 || mark == 45 then next + 2 else next + 1
      if (c == 101 || c == 69) && Lexeme.isDigit (s.unit start) then
        let (e, _, stop) := Lexeme.digitsFrom s 10 false s.size start 0 0
        let e : Int := if mark == 45 then -(e : Int) else e
        some (doubleOfDecimal false value (e - places), stop)
      else if s.unit (pos + wholeCount) == 46 then some (doubleOfDecimal false value (-places), next)
      else some (Lexeme.wholeNumber 10 value, next)

/-- The number at the start of a text, with a sign, and the position after it. -/
def signedAt (s : Units) (pos : Nat) : Option (Float × Nat) :=
  let c := s.unit pos
  if c == 45 then (decimalAt s (pos + 1)).map fun (x, next) => (-x, next)
  else if c == 43 then decimalAt s (pos + 1)
  else decimalAt s pos

/-- The base that the start of a text names. -/
def radixMark (s : Units) : Option Nat :=
  if s.unit 0 != 48 then none
  else
    let d := s.unit 1
    if d == 120 || d == 88 then some 16
    else if d == 111 || d == 79 then some 8
    else if d == 98 || d == 66 then some 2
    else none

/-- The number a text stands for; a text that is none gives a NaN. -/
def read (s : Units) : Float :=
  let s := trim s
  if s.isEmpty then 0.0
  else match radixMark s with
    | some radix =>
      let (value, count, next) := Lexeme.digitsFrom s radix false s.size 2 0 0
      if 0 < count && next == s.size then Lexeme.wholeNumber radix value else 0.0 / 0.0
    | none => match signedAt s 0 with
      | some (x, next) => if next == s.size then x else 0.0 / 0.0
      | none => 0.0 / 0.0

/-- The whole number a text stands for, for big integers. -/
def readInt? (s : Units) : Option Int :=
  let s := trim s
  if s.isEmpty then some 0
  else match radixMark s with
    | some radix =>
      let (value, count, next) := Lexeme.digitsFrom s radix false s.size 2 0 0
      if 0 < count && next == s.size then some value else none
    | none =>
      let negative := s.unit 0 == 45
      let start := if negative || s.unit 0 == 43 then 1 else 0
      let (value, count, next) := Lexeme.digitsFrom s 10 false s.size start 0 0
      if 0 < count && next == s.size then some (if negative then -(value : Int) else value) else none

/-- A number with its fraction cut off; a NaN gives zero, an infinity a bound. -/
def toInt (x : Float) : Int :=
  match smallInt? x with
  | some n => n
  | none => match BinaryValue.ofDouble x with
    | .nan => 0
    | .infinity negative => if negative then -(Int.pow 2 1100 : Int) else Int.pow 2 1100
    | v => v.truncate?.getD 0

/-- A number reduced to 32 bits, as an integer with a sign. -/
def toInt32 (x : Float) : Int :=
  let n := match smallInt? x with
    | some n => n
    | none => ((BinaryValue.ofDouble x).truncate?).getD 0
  Int.bmod n 4294967296

/-- A number reduced to 32 bits, without a sign. -/
def toUint32 (x : Float) : Nat := (toInt32 x % 4294967296).toNat

end NumberText

/-- Which primitive an object should become. -/
inductive Hint where
  | default | number | string

namespace Run

/-- The name of a value's type. -/
def typeName (v : Value) : Run String := do
  match v with
  | .undefined => return "undefined"
  | .null => return "object"
  | .boolean _ => return "boolean"
  | .number _ => return "number"
  | .string _ => return "string"
  | .symbol _ => return "symbol"
  | .bigint _ => return "bigint"
  | .object _ => return if ← isCallable v then "function" else "object"

/-- Make an object a primitive by its own methods. -/
def toPrimitive (v : Value) (hint : Hint) : Run Value := do
  match v with
  | .object _ =>
    match ← getMethod v WellKnown.toPrimitive.key with
    | some f =>
      let word := match hint with
        | .default => "default"
        | .number => "number"
        | .string => "string"
      let p ← call f v #[.string word]
      if p.isObject then fail .toPrimitive else return p
    | none =>
      let (first, second) : Key × Key := match hint with
        | .string => ("toString", "valueOf")
        | _ => ("valueOf", "toString")
      let attempt (k : Key) : Run (Option Value) := do
        let f ← get v k
        if ← isCallable f then
          let p ← call f v #[]
          return if p.isObject then none else some p
        else return none
      match ← attempt first with
      | some p => return p
      | none => match ← attempt second with
        | some p => return p
        | none => fail .toPrimitive
  | _ => return v

/-- The text of a primitive. -/
def primitiveText (v : Value) : Run Units := do
  match v with
  | .undefined => return "undefined"
  | .null => return "null"
  | .boolean b => return if b then "true" else "false"
  | .number x => return NumberText.write x
  | .string s => return s
  | .bigint n => return toString n
  | .symbol _ => fail .symbolToString
  | .object _ => fail .toPrimitive

/-- The text of a value. -/
def toText (v : Value) : Run Units := do
  match v with
  | .string s => return s
  | .object _ => primitiveText (← toPrimitive v .string)
  | _ => primitiveText v

/-- A primitive as a number or a big integer. -/
def primitiveNumeric (v : Value) : Run Value := do
  match v with
  | .undefined => return .number (0.0 / 0.0)
  | .null => return .number 0.0
  | .boolean b => return .number (if b then 1.0 else 0.0)
  | .number _ | .bigint _ => return v
  | .string s => return .number (NumberText.read s)
  | .symbol _ => fail .symbolToNumber
  | .object _ => fail .toPrimitive

def toNumeric (v : Value) : Run Value := do
  match v with
  | .number _ | .bigint _ => return v
  | .object _ => primitiveNumeric (← toPrimitive v .number)
  | _ => primitiveNumeric v

def toNumber (v : Value) : Run Float := do
  match v with
  | .number x => return x
  | _ => match ← toNumeric v with
    | .number x => return x
    | _ => fail .bigintToNumber

/-- A value as a whole number, its fraction cut off. -/
def toInteger (v : Value) : Run Int := return NumberText.toInt (← toNumber v)

def toInt32 (v : Value) : Run Int := return NumberText.toInt32 (← toNumber v)

def toUint32 (v : Value) : Run Nat := return NumberText.toUint32 (← toNumber v)

/-- A whole number between zero and a bound. -/
def clamp (n : Int) (bound : Nat) : Nat := if n < 0 then 0 else min n.toNat bound

/-- The greatest length of an array-like object. -/
def greatestLength : Nat := 9007199254740991

def toLength (v : Value) : Run Nat := return clamp (← toInteger v) greatestLength

/-- A position in something of a given length; a negative one counts from the end. -/
def relativeIndex (v : Value) (length : Nat) : Run Nat := do
  let n ← toInteger v
  return if n < 0 then (n + length).toNat else min n.toNat length

/-- A value as the key of a property. -/
def toKey (v : Value) : Run Key := do
  match v with
  | .string s => return Key.ofUnits s
  | .number x =>
    match NumberText.smallInt? x with
    | some (.ofNat n) => return if n < Key.indexLimit then .index n else Key.ofUnits (toString n)
    | _ => return Key.ofUnits (NumberText.write x)
  | .symbol id => return .symbol id
  | _ => match ← toPrimitive v .string with
    | .symbol id => return .symbol id
    | p => return Key.ofUnits (← primitiveText p)

/-- A value as an object: primitives are wrapped. -/
def toObject (v : Value) : Run Nat := do
  let wrap (i : Intrinsic) (k : Kind) : Run Nat := alloc { proto := some i.ref, kind := k }
  match v with
  | .undefined | .null => fail .toObject
  | .boolean b => wrap .booleanPrototype (.boolean b)
  | .number x => wrap .numberPrototype (.number x)
  | .string s => wrap .stringPrototype (.string s)
  | .symbol id => wrap .symbolPrototype (.symbol id)
  | .bigint n => wrap .bigintPrototype (.bigint n)
  | .object ref => return ref

/-- A value as a big integer. -/
def toBigint (v : Value) : Run Int := do
  match ← toPrimitive v .number with
  | .bigint n => return n
  | .boolean b => return if b then 1 else 0
  | .string s => match NumberText.readInt? s with
    | some n => return n
    | none => fail .bigintLiteral
  | _ => fail .toBigint

/-- Write a property of a value. A new length of an array has to be a whole number. -/
def put (base : Value) (k : Key) (v : Value) (strict : Bool) : Run Unit := do
  match base with
  | .undefined => fail (.writeOf (← keyText k) "undefined")
  | .null => fail (.writeOf (← keyText k) "null")
  | .object ref =>
    let isLength := k == Obj.lengthKey && match ← kindOf ref with
      | .array _ _ _ => true
      | _ => false
    if isLength then
      let x ← toNumber v
      let n := NumberText.toUint32 x
      if Float.ofNat n == x then
        let o ← obj ref
        match o.own? k with
        | some (.data (.number old) false _ _) =>
          if old == x then return else let _ ← refuse strict (.readOnly "length")
        | _ =>
          let _ ← putFrom chainLimit ref k (.ofNat n) base strict
      else fail .invalidArrayLength
    else
      let _ ← putFrom chainLimit ref k v base strict
  | _ => match primitivePrototype base with
    | some p =>
      let _ ← putFrom chainLimit p.ref k v base strict
    | none => return

/-- Define a property as a descriptor asks; a new length of an array has to be a whole number. -/
def defineChecked (ref : Nat) (k : Key) (d : Descriptor) (strict : Bool) : Run Bool := do
  let isArray := match ← kindOf ref with
    | .array _ _ _ => true
    | _ => false
  match isArray && k == Obj.lengthKey, d.value with
  | true, some v =>
    let x ← toNumber v
    let n := NumberText.toUint32 x
    if Float.ofNat n == x then define ref k { d with value := some (.ofNat n) } strict
    else fail .invalidArrayLength
  | _, _ => define ref k d strict

/-- Delete a property of a value. -/
def deleteProperty (base : Value) (k : Key) (strict : Bool) : Run Bool := do
  let ref ← toObject base
  if ← deleteFrom chainLimit ref k then return true
  else refuse strict .notDeleted

/-- The length of an array-like object. -/
def lengthOf (v : Value) : Run Nat := do
  match v with
  | .object ref =>
    match ← kindOf ref with
    | .array _ length _ => return length
    | _ => toLength (← get v "length")
  | _ => toLength (← get v "length")

/-- Whether a value is an array, also through proxies. -/
def isArrayFrom : Nat → Value → Run Bool
  | 0, _ => return false
  | n + 1, v => do
    match v with
    | .object ref => match ← kindOf ref with
      | .array _ _ _ => return true
      | .proxy (some (target, _)) _ _ => isArrayFrom n (.object target)
      | .proxy none _ _ => fail .revokedProxy
      | _ => return false
    | _ => return false

def isArray (v : Value) : Run Bool := isArrayFrom chainLimit v

/-- Whether `new` may name a value. A bound function stands for its target. -/
def isConstructorFrom : Nat → Value → Run Bool
  | 0, _ => return false
  | n + 1, v => do
    match v with
    | .object ref =>
      match ← kindOf ref with
      | .closure c =>
        match c.code with
        | .standardConstructor _ => return true
        | .function i =>
          match (← MonadState.get).code.functions[i]? with
          | some f =>
            let kindFits := match f.kind with
              | .plain | .constructor _ => true
              | _ => false
            return kindFits && !f.isAsync && !f.isGenerator
          | none => return false
      | .native _ constructs _ => return constructs
      | .bound target _ _ => isConstructorFrom n target
      | .proxy _ _ constructible => return constructible
      | _ => return false
    | _ => return false

def isConstructor (v : Value) : Run Bool := isConstructorFrom chainLimit v

end Run

end SnippetService.Script
