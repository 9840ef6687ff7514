import SnippetService.Numeric.Rounded
import SnippetService.Script.Library.ErrorMethods
/-!
The constructors of booleans, numbers, big integers and symbols, and what these values inherit.
-/
namespace SnippetService.Script.Library

open Run Evaluate

/-- Wrap a primitive for the constructor that `new` named. -/
def wrapped (c : NativeCall) (standard : Intrinsic) (k : Kind) : Run Value := do
  let p ← prototypeFor c.newTarget standard
  allocValue { proto := some p, kind := k }

namespace BooleanMethods

def construct : Action := fun c => do
  let b := (c.arg 0).truthy
  if c.newTarget.isUndefined then return .boolean b
  else wrapped c .booleanPrototype (.boolean b)

def thisBoolean (v : Value) : Run Bool := do
  match v with
  | .boolean b => return b
  | .object ref => match ← kindOf ref with
    | .boolean b => return b
    | _ => fail (.mixedWrong "boolean")
  | _ => fail (.mixedWrong "boolean")

def standardClass : StandardClass where
  name := "Boolean"
  arity := 1
  prototype := some .booleanPrototype
  run := construct

def prototype : StandardObject where
  place := .booleanPrototype
  kind := .boolean false
  features :=
    [.method "toString" 0 fun c => return .string (if ← thisBoolean c.this then "true" else "false"),
     .method "valueOf" 0 fun c => return .boolean (← thisBoolean c.this)]

end BooleanMethods

namespace NumberMethods

def construct : Action := fun c => do
  let x ← if c.args.isEmpty then pure 0.0 else
    match ← toNumeric (c.arg 0) with
    | .number x => pure x
    | .bigint n => pure (doubleOfInt n)
    | _ => pure 0.0
  if c.newTarget.isUndefined then return .number x
  else wrapped c .numberPrototype (.number x)

def thisNumber (v : Value) : Run Float := do
  match v with
  | .number x => return x
  | .object ref => match ← kindOf ref with
    | .number x => return x
    | _ => fail (.mixedWrong "number")
  | _ => fail (.mixedWrong "number")

/-- A base between 2 and 36. -/
def radix (v : Value) : Run Nat := do
  if v.isUndefined then return 10
  else
    let n ← toInteger v
    if n < 2 || 36 < n then fail .invalidRadix else return n.toNat

/-- A digit of a base up to 36. -/
def digitChar (d : Nat) : Char := Char.ofNat (if d < 10 then 48 + d else 87 + d)

/-- The digits of a number in a base. -/
def digitsIn (base : Nat) : Nat → Nat → List Char → List Char
  | 0, _, found => found
  | fuel + 1, n, found =>
    if n < base then digitChar n :: found
    else digitsIn base fuel (n / base) (digitChar (n % base) :: found)

/-- A whole number in a base. -/
def intText (n : Int) (base : Nat) : Units :=
  let text := String.ofList (digitsIn base (n.natAbs.log2 + 1) n.natAbs [])
  if n < 0 then "-" ++ text else text

/-- The text of a number in a base. Only whole numbers of moderate size are written in another base
than ten. -/
def toString : Action := fun c => do
  let x ← thisNumber c.this
  let base ← radix (c.arg 0)
  match base == 10, NumberText.smallInt? x with
  | false, some n => return .string (intText n base)
  | _, _ => return .string (NumberText.write x)

/-- The text of a number that has digits; others, and great ones if so wished, are written plainly. -/
def written (x : Float) (limit : Bool) (digits : Nat → Int → String) : Units :=
  match BinaryValue.ofDouble x with
  | .finite negative m e =>
    if limit && 1e21 ≤ x.abs then NumberText.write x
    else (if negative && m != 0 then "-" else "") ++ digits m e
  | _ => NumberText.write x

def toFixed : Action := fun c => do
  let x ← thisNumber c.this
  let n ← toInteger (c.arg 0)
  if n < 0 || 100 < n then fail .invalidDigits
  else return .string (written x true fun m e => Rounded.fixed m e n.toNat)

def toExponential : Action := fun c => do
  let x ← thisNumber c.this
  let n ← toInteger (c.arg 0)
  if !x.isFinite then return .string (NumberText.write x)
  else if n < 0 || 100 < n then fail .invalidDigits
  else
    return .string (written x false fun m e =>
      if m == 0 then Rounded.exponential (List.replicate (n.toNat + 1) 0) 0
      else if (c.arg 0).isUndefined then
        let d := Shortest.ofDyadic .double true m e
        Rounded.exponential d.digits (d.point - 1)
      else
        let (ds, exponent) := Rounded.significant m e (n.toNat + 1)
        Rounded.exponential ds exponent)

def toPrecision : Action := fun c => do
  let x ← thisNumber c.this
  if (c.arg 0).isUndefined then return .string (NumberText.write x)
  else
    let p ← toInteger (c.arg 0)
    if !x.isFinite then return .string (NumberText.write x)
    else if p < 1 || 100 < p then fail .invalidDigits
    else
      return .string (written x false fun m e =>
        if m == 0 then Rounded.positional (List.replicate p.toNat 0) 0
        else
          let (ds, exponent) := Rounded.significant m e p.toNat
          if exponent < -6 || p ≤ exponent then Rounded.exponential ds exponent
          else Rounded.positional ds exponent)

/-- Whether a value is a number without a fraction. -/
def isWhole (v : Value) : Bool :=
  match v with
  | .number x => x.isFinite && x.floor == x
  | _ => false

/-- The number that the digits of a base at the start of a text stand for. -/
def parseInt : Action := fun c => do
  let s := NumberText.trim (← toText (c.arg 0))
  let base ← toInt32 (c.arg 1)
  let negative := s.unit 0 == 45
  let start := if negative || s.unit 0 == 43 then 1 else 0
  if base != 0 && (base < 2 || 36 < base) then return .number (0.0 / 0.0)
  else
    let marked := (base == 0 || base == 16) && s.unit start == 48 &&
      (s.unit (start + 1) == 120 || s.unit (start + 1) == 88)
    let start := if marked then start + 2 else start
    let base := if base == 0 then (if marked then 16 else 10) else base.toNat
    let (n, count) := digits s base (s.size + 1) start 0 0
    if count == 0 then return .number (0.0 / 0.0)
    else
      let x := Lexeme.wholeNumber base n
      return .number (if negative then -x else x)
where
  digitValue (c : Nat) : Nat :=
    if 48 ≤ c && c ≤ 57 then c - 48
    else if 97 ≤ c && c ≤ 122 then c - 87
    else if 65 ≤ c && c ≤ 90 then c - 55
    else 99
  digits (s : Units) (base : Nat) : Nat → Nat → Nat → Nat → Nat × Nat
    | 0, _, n, count => (n, count)
    | fuel + 1, i, n, count =>
      let d := digitValue (s.unit i)
      if i < s.size && d < base then digits s base fuel (i + 1) (n * base + d) (count + 1)
      else (n, count)

/-- The decimal number at the start of a text. -/
def parseFloat : Action := fun c => do
  let s := NumberText.trim (← toText (c.arg 0))
  match NumberText.signedAt s 0 with
  | some (x, _) => return .number x
  | none => return .number (0.0 / 0.0)

def number (x : Float) (key : Key) : Feature := .constant key (.number x)

def standardClass : StandardClass where
  name := "Number"
  arity := 1
  prototype := some .numberPrototype
  run := construct
  statics :=
    [.method "parseInt" 2 parseInt,
     .method "parseFloat" 1 parseFloat,
     .method "isNaN" 1 fun c => return .boolean (match c.arg 0 with
       | .number x => x.isNaN
       | _ => false),
     .method "isFinite" 1 fun c => return .boolean (match c.arg 0 with
       | .number x => x.isFinite
       | _ => false),
     .method "isInteger" 1 fun c => return .boolean (isWhole (c.arg 0)),
     .method "isSafeInteger" 1 fun c => return .boolean (match c.arg 0 with
       | .number x => isWhole (.number x) && x.abs ≤ 9007199254740991.0
       | _ => false),
     number (doubleOfBits 0x7FEFFFFFFFFFFFFF) "MAX_VALUE",
     number (doubleOfBits 1) "MIN_VALUE",
     number (0.0 / 0.0) "NaN",
     number (-1.0 / 0.0) "NEGATIVE_INFINITY",
     number (1.0 / 0.0) "POSITIVE_INFINITY",
     number (doubleOfBits 0x3CB0000000000000) "EPSILON",
     number 9007199254740991.0 "MAX_SAFE_INTEGER",
     number (-9007199254740991.0) "MIN_SAFE_INTEGER"]

def prototype : StandardObject where
  place := .numberPrototype
  kind := .number 0.0
  features :=
    [.method "toExponential" 1 toExponential,
     .method "toFixed" 1 toFixed,
     .method "toPrecision" 1 toPrecision,
     .method "toString" 1 toString,
     .method "toLocaleString" 0 fun c => return .string (NumberText.write (← thisNumber c.this)),
     .method "valueOf" 0 fun c => return .number (← thisNumber c.this)]

end NumberMethods

namespace BigintMethods

def construct : Action := fun c => do
  match ← toPrimitive (c.arg 0) .number with
  | .number x =>
    match BinaryValue.ofDouble x with
    | .finite _ _ _ =>
      match NumberMethods.isWhole (.number x) with
      | true => return .bigint (NumberText.toInt x)
      | false => fail .bigintNotInteger
    | _ => fail .bigintNotFinite
  | v => return .bigint (← toBigint v)

def thisBigint (v : Value) : Run Int := do
  match v with
  | .bigint n => return n
  | .object ref => match ← kindOf ref with
    | .bigint n => return n
    | _ => fail (.mixedWrong "bigint")
  | _ => fail (.mixedWrong "bigint")

/-- A big integer reduced to a number of bits. -/
def asBits (signed : Bool) : Action := fun c => do
  let bits ← toInteger (c.arg 0)
  if bits < 0 || 9007199254740991 < bits then fail .invalidDigits
  else
    let n ← toBigint (c.arg 1)
    if (n.natAbs.log2 : Int) + 1 < bits && (signed || 0 ≤ n) then return .bigint n
    else if 1048576 < bits then fail .bigintInvalid
    else
      let modulus : Nat := Nat.pow 2 bits.toNat
      return .bigint (if signed then Int.bmod n modulus else n % modulus)

def standardClass : StandardClass where
  name := "BigInt"
  arity := 1
  prototype := some .bigintPrototype
  constructs := false
  run := construct
  statics := [.method "asUintN" 2 (asBits false), .method "asIntN" 2 (asBits true)]

def prototype : StandardObject where
  place := .bigintPrototype
  features :=
    [.method "toString" 0 fun c => do
       let n ← thisBigint c.this
       return .string (NumberMethods.intText n (← NumberMethods.radix (c.arg 0))),
     .method "toLocaleString" 0 fun c => return .string (toString (← thisBigint c.this)),
     .method "valueOf" 0 fun c => return .bigint (← thisBigint c.this),
     .tag "BigInt"]

end BigintMethods

namespace SymbolMethods

def construct : Action := fun c => do
  let description ← if (c.arg 0).isUndefined then pure none else pure (some (← toText (c.arg 0)))
  return .symbol (← newSymbol description)

def thisSymbol (v : Value) : Run Nat := do
  match v with
  | .symbol id => return id
  | .object ref => match ← kindOf ref with
    | .symbol id => return id
    | _ => fail .notASymbol
  | _ => fail .notASymbol

/-- The text that shows a symbol. -/
def shown (id : Nat) : Run Units := return "Symbol(" ++ (← symbolText id) ++ ")"

def forName : Action := fun c => do
  let name ← toText (c.arg 0)
  match (← MonadState.get).shared.lookup name with
  | some id => return .symbol id
  | none =>
    let id ← newSymbol (some name)
    modify fun r => { r with shared := (name, id) :: r.shared }
    return .symbol id

def keyFor : Action := fun c => do
  match c.arg 0 with
  | .symbol id =>
    match (← MonadState.get).shared.find? fun s => s.2 == id with
    | some (name, _) => return .string name
    | none => return .undefined
  | _ => fail .notASymbol

def description : Action := fun c => do
  let id ← thisSymbol c.this
  match (← MonadState.get).symbols.getD id none with
  | some text => return .string text
  | none => return .undefined

def standardClass : StandardClass where
  name := "Symbol"
  arity := 0
  prototype := some .symbolPrototype
  constructs := false
  run := construct
  statics :=
    [.method "for" 1 forName, .method "keyFor" 1 keyFor] ++
      WellKnown.all.map fun w => .constant w.name (.symbol w.id)

def prototype : StandardObject where
  place := .symbolPrototype
  features :=
    [.method "toString" 0 fun c => return .string (← shown (← thisSymbol c.this)),
     .method "valueOf" 0 fun c => return .symbol (← thisSymbol c.this),
     .method WellKnown.toPrimitive.key 1 fun c => return .symbol (← thisSymbol c.this),
     .tag "Symbol",
     .getter "description" description]

end SymbolMethods

end SnippetService.Script.Library
