import SnippetService.Script.Library.PrimitiveMethods
/-!
The object `Math`.
-/
namespace SnippetService.Script.Library.MathMethods

open Run

def isNegative (x : Float) : Bool := x < 0.0 || 1.0 / x < 0.0

/-- Round to the nearest whole number, a half upwards. -/
def round (x : Float) : Float :=
  let y := x.floor
  let up := if x - y < 0.5 then y else y + 1.0
  if up == 0.0 && isNegative x then -0.0 else up

def trunc (x : Float) : Float := if x < 0.0 then x.ceil else x.floor

def sign (x : Float) : Float := if x < 0.0 then -1.0 else if 0.0 < x then 1.0 else x

/-- The greater of two numbers; the positive zero is greater than the negative one. -/
def greater (x y : Float) : Float :=
  if x != x then x else if y != y then y
  else if x < y then y else if y < x then x
  else if isNegative x then y else x

/-- The lesser of two numbers. -/
def lesser (x y : Float) : Float :=
  if x != x then x else if y != y then y
  else if x < y then x else if y < x then y
  else if isNegative x then x else y

/-- The nearest number of the single format. -/
def single (x : Float) : Float :=
  let bits := BinaryFormat.single.encode (.ofDouble x)
  doubleOfBits (BinaryFormat.double.encode (BinaryFormat.single.decode bits))

/-- The exponential less one, by its series where the difference would lose digits. -/
def expm1 (x : Float) : Float :=
  if x.abs < 1e-5 then x + x * x / 2.0 + x * x * x / 6.0 else x.exp - 1.0

/-- The logarithm of one more, by its series where the sum would lose digits. -/
def log1p (x : Float) : Float :=
  if x.abs < 1e-5 then x - x * x / 2.0 + x * x * x / 3.0 else (1.0 + x).log

/-- The number of leading zero bits among 32. -/
def leadingZeros (n : Nat) : Nat := if n == 0 then 32 else 31 - n.log2

/-- A pseudo-random number from zero up to one, with the next state. -/
def nextRandom (state : UInt64) : Float × UInt64 :=
  let x := state ^^^ (state >>> 12)
  let x := x ^^^ (x <<< 25)
  let x := x ^^^ (x >>> 27)
  let bits := (x * 0x2545F4914F6CDD1D) >>> 12
  (Float.ofBits (bits ||| 0x3FF0000000000000) - 1.0, x)

/-- A function of one number. -/
def unary (key : Key) (f : Float → Float) : Feature :=
  .method key 1 fun c => return .number (f (← toNumber (c.arg 0)))

/-- The numbers that the arguments stand for. -/
def numbers (c : NativeCall) : Run (List Float) := c.args.toList.mapM toNumber

def hypot (xs : List Float) : Float :=
  if xs.any (·.isInf) then 1.0 / 0.0
  else (xs.foldl (fun acc x => acc + x * x) 0.0).sqrt

def constant (key : Key) (x : Float) : Feature := .constant key (.number x)

def standardObject : StandardObject where
  place := .math
  features :=
    [.method "min" 2 fun c => return .number ((← numbers c).foldl lesser (1.0 / 0.0)),
     .method "max" 2 fun c => return .number ((← numbers c).foldl greater (-1.0 / 0.0)),
     unary "abs" Float.abs,
     unary "floor" Float.floor,
     unary "ceil" Float.ceil,
     unary "round" round,
     unary "sqrt" Float.sqrt,
     unary "acos" Float.acos,
     unary "asin" Float.asin,
     unary "atan" Float.atan,
     .method "atan2" 2 fun c => do
       let y ← toNumber (c.arg 0)
       return .number (Float.atan2 y (← toNumber (c.arg 1))),
     unary "cos" Float.cos,
     unary "exp" Float.exp,
     unary "log" Float.log,
     .method "pow" 2 fun c => do
       let x ← toNumber (c.arg 0)
       return .number (Arithmetic.power x (← toNumber (c.arg 1))),
     unary "sin" Float.sin,
     unary "tan" Float.tan,
     unary "trunc" trunc,
     unary "sign" sign,
     unary "cosh" Float.cosh,
     unary "sinh" Float.sinh,
     unary "tanh" Float.tanh,
     unary "acosh" Float.acosh,
     unary "asinh" Float.asinh,
     unary "atanh" Float.atanh,
     unary "expm1" expm1,
     unary "log1p" log1p,
     unary "log2" Float.log2,
     unary "log10" Float.log10,
     unary "cbrt" Float.cbrt,
     .method "hypot" 2 fun c => return .number (hypot (← numbers c)),
     .method "random" 0 fun _ => do
       modifyGet fun r =>
         let (x, state) := nextRandom r.randomState
         (.number x, { r with randomState := state }),
     unary "fround" single,
     .method "imul" 2 fun c => do
       let a ← toInt32 (c.arg 0)
       let b ← toInt32 (c.arg 1)
       return .number (Float.ofInt (Int.bmod (a * b) 4294967296)),
     .method "clz32" 1 fun c => return .ofNat (leadingZeros (← toUint32 (c.arg 0))),
     .tag "Math",
     constant "E" 2.718281828459045,
     constant "LN10" 2.302585092994046,
     constant "LN2" 0.6931471805599453,
     constant "LOG2E" 1.4426950408889634,
     constant "LOG10E" 0.4342944819032518,
     constant "PI" 3.141592653589793,
     constant "SQRT1_2" 0.7071067811865476,
     constant "SQRT2" 1.4142135623730951]

end SnippetService.Script.Library.MathMethods
