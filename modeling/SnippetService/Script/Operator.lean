import SnippetService.Script.Convert
/-!
The operators on values: arithmetic on numbers and big integers, comparison, and the loose equality
that converts its operands.
-/
namespace SnippetService.Script

namespace Arithmetic

/-- The remainder of a division that cuts off, with the sign of the dividend. -/
def remainder (x y : Float) : Float :=
  match BinaryValue.ofDouble x, BinaryValue.ofDouble y with
  | .finite negative m e, .finite _ m' e' =>
    if m' == 0 then 0.0 / 0.0
    else
      let low := min e e'
      let a := m * Nat.pow 2 (e - low).toNat
      let b := m' * Nat.pow 2 (e' - low).toNat
      doubleOfBits (BinaryFormat.double.roundDyadic negative (a % b) low)
  | .finite _ _ _, .infinity _ => x
  | _, _ => 0.0 / 0.0

/-- A power. A base of size one to an infinite power has no value. -/
def power (x y : Float) : Float :=
  if y != y then y
  else if (x == 1.0 || x == -1.0) && (y == 1.0 / 0.0 || y == -1.0 / 0.0) then 0.0 / 0.0
  else match NumberText.smallInt? x, NumberText.smallInt? y with
    | some a, some (.ofNat n) =>
      -- Powers that fit are computed exactly.
      if n ≤ 64 && a.natAbs ≤ 65536 && x.toBits != (-0.0 : Float).toBits then
        doubleOfInt (Int.pow a n)
      else Float.pow x y
    | _, _ => Float.pow x y

end Arithmetic

/-- How two values stand to each other in order; a NaN stands in no order. -/
inductive Order where
  | less | equal | greater | none
  deriving DecidableEq

namespace Order

/-- The order seen from the other side. -/
def flip : Order → Order
  | less => greater
  | greater => less
  | o => o

end Order

namespace Run

open Arithmetic

def numbers (op : BinaryOp) (x y : Float) : Value :=
  let bits (f : Int → Int → Int) : Value :=
    .number (Float.ofInt (f (NumberText.toInt32 x) (NumberText.toInt32 y)))
  let count := NumberText.toUint32 y % 32
  match op with
  | .add => .number (x + y)
  | .sub => .number (x - y)
  | .mul => .number (x * y)
  | .div => .number (x / y)
  | .rem => .number (remainder x y)
  | .pow => .number (power x y)
  | .bitAnd => bits fun a b =>
    Int.bmod ((a % 4294967296).toNat &&& (b % 4294967296).toNat : Nat) 4294967296
  | .bitOr => bits fun a b =>
    Int.bmod ((a % 4294967296).toNat ||| (b % 4294967296).toNat : Nat) 4294967296
  | .bitXor => bits fun a b =>
    Int.bmod ((a % 4294967296).toNat ^^^ (b % 4294967296).toNat : Nat) 4294967296
  | .shiftLeft => .number (Float.ofInt (Int.bmod (NumberText.toInt32 x * Int.pow 2 count) 4294967296))
  | .shiftRight => .number (Float.ofInt (NumberText.toInt32 x / Int.pow 2 count))
  | .shiftRightZero => .ofNat (NumberText.toUint32 x / Nat.pow 2 count)
  | _ => .undefined

/-- The two's complement of an integer in a width that holds it. -/
def bitsOf (n : Int) (width : Nat) : Nat := (n % Int.pow 2 width).toNat

/-- An operation on the bits of two big integers. -/
def bigintBits (f : Nat → Nat → Nat) (a b : Int) : Int :=
  let width := max a.natAbs.log2 b.natAbs.log2 + 2
  Int.bmod (f (bitsOf a width) (bitsOf b width)) (Nat.pow 2 width)

/-- The greatest number of bits of a big integer that is computed. -/
def bigintLimit : Nat := 1048576

def bigints (op : BinaryOp) (a b : Int) : Run Value := do
  let shift (left : Bool) : Run Value := do
    if left then
      if bigintLimit < b.natAbs then fail .bigintInvalid
      else return .bigint (a * Int.pow 2 b.natAbs)
    else if bigintLimit < b.natAbs then return .bigint (if a < 0 then -1 else 0)
    else return .bigint (Int.fdiv a (Int.pow 2 b.natAbs))
  match op with
  | .add => return .bigint (a + b)
  | .sub => return .bigint (a - b)
  | .mul => return .bigint (a * b)
  | .div => if b == 0 then fail .bigintInvalid else return .bigint (Int.tdiv a b)
  | .rem => if b == 0 then fail .bigintInvalid else return .bigint (Int.tmod a b)
  | .pow =>
    if b < 0 then fail .bigintInvalid
    else if a.natAbs ≤ 1 then
      return .bigint (if b == 0 then 1 else if a == -1 && b % 2 == 0 then 1 else a)
    else if bigintLimit < (a.natAbs.log2 + 1) * b.toNat then fail .bigintInvalid
    else return .bigint (Int.pow a b.toNat)
  | .bitAnd => return .bigint (bigintBits (· &&& ·) a b)
  | .bitOr => return .bigint (bigintBits (· ||| ·) a b)
  | .bitXor => return .bigint (bigintBits (· ^^^ ·) a b)
  | .shiftLeft => shift (0 ≤ b)
  | .shiftRight => shift (b < 0)
  | .shiftRightZero => fail .bigintUnsignedShift
  | _ => return .undefined

/-- An arithmetic operator on converted operands. A number beside a big integer is refused. -/
def numeric (op : BinaryOp) (a b : Value) : Run Value := do
  match a, b with
  | .number x, .number y => return numbers op x y
  | .bigint m, .bigint n => bigints op m n
  | _, _ => match op with
    | .shiftRightZero => fail .bigintUnsignedShift
    | _ => fail .toBigint

/-- Addition, which joins texts if either operand is one. -/
def add (a b : Value) : Run Value := do
  match a, b with
  | .number x, .number y => return .number (x + y)
  | .string s, .string t => return .string (s ++ t)
  | _, _ =>
    let a ← toPrimitive a .default
    let b ← toPrimitive b .default
    match a, b with
    | .string s, _ => return .string (s ++ (← primitiveText b))
    | _, .string t => return .string ((← primitiveText a) ++ t)
    | _, _ => numeric .add (← primitiveNumeric a) (← primitiveNumeric b)

/-- The order of two numbers. -/
def orderFloats (x y : Float) : Order :=
  if x < y then .less else if y < x then .greater else if x == y then .equal else .none

/-- The order of a big integer and a number, exactly. -/
def orderBigint (n : Int) (x : Float) : Order :=
  match BinaryValue.ofDouble x with
  | .nan => .none
  | .infinity negative => if negative then .greater else .less
  | .finite negative m e =>
    -- Both sides are scaled to whole numbers.
    let signed : Int := if negative then -(m : Int) else m
    let (a, b) : Int × Int :=
      if e < 0 then (n * Int.pow 2 (-e).toNat, signed) else (n, signed * Int.pow 2 e.toNat)
    if a < b then .less else if b < a then .greater else .equal

def orderInts (m n : Int) : Order := if m < n then .less else if n < m then .greater else .equal

/-- The order of two primitives. -/
def orderPrimitives (a b : Value) : Run Order := do
  match a, b with
  | .string s, .string t => return if s.lt t then .less else if t.lt s then .greater else .equal
  | .bigint m, .string t => return match NumberText.readInt? t with
    | some n => orderInts m n
    | none => .none
  | .string s, .bigint n => return match NumberText.readInt? s with
    | some m => orderInts m n
    | none => .none
  | _, _ =>
    match ← primitiveNumeric a, ← primitiveNumeric b with
    | .number x, .number y => return orderFloats x y
    | .bigint m, .bigint n => return orderInts m n
    | .bigint m, .number y => return orderBigint m y
    | .number x, .bigint n => return (orderBigint n x).flip
    | _, _ => return .none

def compare (op : BinaryOp) (a b : Value) : Run Value := do
  let decide (o : Order) : Bool := match op with
    | .less => o == .less
    | .greater => o == .greater
    | .lessEqual => o == .less || o == .equal
    | _ => o == .greater || o == .equal
  match a, b with
  | .number x, .number y => return .boolean (decide (orderFloats x y))
  | _, _ =>
    let a ← toPrimitive a .number
    let b ← toPrimitive b .number
    return .boolean (decide (← orderPrimitives a b))

/-- The comparison of `==` between primitives. -/
def loosePrimitives (a b : Value) : Run Bool := do
  match a, b with
  | .undefined, .null | .null, .undefined => return true
  | .number x, .string t => return x == NumberText.read t
  | .string s, .number y => return NumberText.read s == y
  | .bigint m, .string t => return NumberText.readInt? t == some m
  | .string s, .bigint n => return NumberText.readInt? s == some n
  | .bigint m, .number y => return orderBigint m y == .equal
  | .number x, .bigint n => return orderBigint n x == .equal
  | _, _ => return Value.strictEq a b

/-- A boolean as a number; other values as they are. -/
def unboolean : Value → Value
  | .boolean b => .number (if b then 1.0 else 0.0)
  | v => v

/-- The comparison of `==`. -/
def looseEq (a b : Value) : Run Bool := do
  match a, b with
  | .object x, .object y => return x == y
  | .boolean x, .boolean y => return x == y
  | .object _, _ =>
    if b.isNullish then return false
    else loosePrimitives (unboolean (← toPrimitive a .default)) (unboolean b)
  | _, .object _ =>
    if a.isNullish then return false
    else loosePrimitives (unboolean a) (unboolean (← toPrimitive b .default))
  | _, _ =>
    if a.isNullish || b.isNullish then loosePrimitives a b
    else loosePrimitives (unboolean a) (unboolean b)

/-- Whether an object is an instance by the prototypes it has. -/
def ordinaryInstance : Nat → Value → Value → Run Bool
  | 0, _, _ => return false
  | n + 1, v, f => do
    if !(← isCallable f) then return false
    else
      let target ← match f with
        | .object ref => match ← kindOf ref with
          | .bound target _ _ => pure (some target)
          | _ => pure none
        | _ => pure none
      match target with
      | some target => ordinaryInstance n v target
      | none =>
        match v with
        | .object ref =>
          match ← get f "prototype" with
          | .object p =>
            match ← proto? ref with
            | none => return false
            | some q => chain chainLimit q p
          | _ => fail .instanceofPrototype
        | _ => return false
where
  chain : Nat → Nat → Nat → Run Bool
    | 0, _, _ => return false
    | n + 1, q, p => do
      if q == p then return true
      else match ← proto? q with
        | some q => chain n q p
        | none => return false

def instanceOf (v f : Value) : Run Bool := do
  match f with
  | .object _ =>
    match ← getMethod f WellKnown.hasInstance.key with
    | some h => return (← call h f #[v]).truthy
    | none =>
      if ← isCallable f then ordinaryInstance chainLimit v f
      else fail .invalidInstanceof
  | _ => fail .invalidInstanceof

/-- A binary operator on two values. -/
def binary (op : BinaryOp) (a b : Value) : Run Value := do
  match op with
  | .add => add a b
  | .less | .greater | .lessEqual | .greaterEqual => compare op a b
  | .equal => return .boolean (← looseEq a b)
  | .notEqual => return .boolean (!(← looseEq a b))
  | .same => return .boolean (Value.strictEq a b)
  | .notSame => return .boolean (!Value.strictEq a b)
  | .isIn =>
    match b with
    | .object ref => return .boolean (← has ref (← toKey a))
    | _ => fail .invalidIn
  | .isInstance => return .boolean (← instanceOf a b)
  | _ =>
    match a, b with
    | .number x, .number y => return numbers op x y
    | _, _ =>
      let a ← toNumeric a
      let b ← toNumeric b
      numeric op a b

/-- A unary operator on a value. -/
def unary (op : UnaryOp) (v : Value) : Run Value := do
  match op with
  | .not => return .boolean (!v.truthy)
  | .plus =>
    match ← toNumeric v with
    | .bigint _ => fail .bigintUnaryPlus
    | n => return n
  | .minus =>
    match ← toNumeric v with
    | .bigint n => return .bigint (-n)
    | .number x => return .number (-x)
    | n => return n
  | .complement =>
    match ← toNumeric v with
    | .bigint n => return .bigint (-n - 1)
    | .number x => return .number (Float.ofInt (-(NumberText.toInt32 x) - 1))
    | n => return n

end Run

end SnippetService.Script
