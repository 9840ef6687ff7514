/-!
Binary floating-point formats, read and written as bit patterns. A pattern is decoded into an exact
dyadic number, and an exact quotient is encoded by rounding to the nearest member of the format,
ties going to the even neighbour. All arithmetic is on natural numbers.
-/
namespace SnippetService

/-- An interchange format: the width of the stored fraction and of the exponent field. -/
structure BinaryFormat where
  fractionBits : Nat
  exponentBits : Nat

/-- An exact reading of a bit pattern. A finite number stands for `magnitude * 2 ^ exponent`. -/
inductive BinaryValue where
  | nan
  | infinity (negative : Bool)
  | finite (negative : Bool) (magnitude : Nat) (exponent : Int)

namespace BinaryFormat

/-- The 64-bit format. -/
def double : BinaryFormat := ⟨52, 11⟩

/-- The 32-bit format. -/
def single : BinaryFormat := ⟨23, 8⟩

/-- The exponent of the least subnormal number. -/
def leastExponent (f : BinaryFormat) : Int :=
  2 - Int.pow 2 (f.exponentBits - 1) - f.fractionBits

/-- The pattern of positive infinity, above every finite positive pattern. -/
def infinityBits (f : BinaryFormat) : Nat :=
  (Nat.pow 2 f.exponentBits - 1) * Nat.pow 2 f.fractionBits

/-- The bit that marks negative numbers. -/
def signBit (f : BinaryFormat) : Nat :=
  Nat.pow 2 (f.exponentBits + f.fractionBits)

/-- The quiet pattern that stands for every undefined result. -/
def nanBits (f : BinaryFormat) : Nat :=
  f.infinityBits + Nat.pow 2 (f.fractionBits - 1)

/-- The sign bit is set beside a magnitude pattern when the number is negative. -/
def withSign (f : BinaryFormat) (negative : Bool) (magnitudeBits : Nat) : Nat :=
  if negative then f.signBit + magnitudeBits else magnitudeBits

/-- Read a pattern exactly. Bits above the sign are ignored. -/
def decode (f : BinaryFormat) (bits : Nat) : BinaryValue :=
  let negative := bits / f.signBit % 2 == 1
  let field := bits / Nat.pow 2 f.fractionBits % Nat.pow 2 f.exponentBits
  let fraction := bits % Nat.pow 2 f.fractionBits
  if field == Nat.pow 2 f.exponentBits - 1 then
    if fraction == 0 then .infinity negative else .nan
  else if field == 0 then .finite negative fraction f.leastExponent
  else .finite negative (Nat.pow 2 f.fractionBits + fraction) (f.leastExponent + field - 1)

/-- Round half to even: the integer nearest to `num / den`. -/
def roundDiv (num den : Nat) : Nat :=
  let q := num / den
  let r := num % den
  if 2 * r < den then q
  else if den < 2 * r then q + 1
  else q + q % 2

/-- The nearest integer to `num / (den * 2 ^ e)`, ties to even. -/
def roundScaled (num den : Nat) (e : Int) : Nat :=
  if e < 0 then roundDiv (num * Nat.pow 2 (-e).toNat) den else roundDiv num (den * Nat.pow 2 e.toNat)

/-- The exponent of the unit in the last place for a number of the size of `num / den`. -/
def unitExponent (f : BinaryFormat) (num den : Nat) : Int :=
  let guess : Int := (num.log2 : Int) - den.log2 - f.fractionBits
  -- The quotient of the leading powers is right or one too large.
  let reaches := if guess + f.fractionBits < 0
    then den ≤ num * Nat.pow 2 (-(guess + f.fractionBits)).toNat
    else den * Nat.pow 2 (guess + f.fractionBits).toNat ≤ num
  max f.leastExponent (if reaches then guess else guess - 1)

/-- The pattern of the member of the format nearest to the positive or zero quotient `num / den`;
numbers past the largest finite member become infinity. -/
def roundQuotient (f : BinaryFormat) (num den : Nat) : Nat :=
  if num == 0 then 0
  else
    let e := f.unitExponent num den
    -- A rounded significand that reaches the next power carries into the exponent field by itself.
    let bits := (e - f.leastExponent).toNat * Nat.pow 2 f.fractionBits + roundScaled num den e
    min bits f.infinityBits

/-- The pattern nearest to `± magnitude * 2 ^ exponent`. -/
def roundDyadic (f : BinaryFormat) (negative : Bool) (magnitude : Nat) (exponent : Int) : Nat :=
  f.withSign negative <|
    if exponent < 0 then f.roundQuotient magnitude (Nat.pow 2 (-exponent).toNat)
    else f.roundQuotient (magnitude * Nat.pow 2 exponent.toNat) 1

/-- The pattern nearest to an integer. -/
def ofInt (f : BinaryFormat) (n : Int) : Nat :=
  f.withSign (n < 0) (f.roundQuotient n.natAbs 1)

/-- The pattern nearest to the decimal `± digits * 10 ^ exponent`. -/
def ofDecimal (f : BinaryFormat) (negative : Bool) (digits : Nat) (exponent : Int) : Nat :=
  f.withSign negative <|
    if exponent < 0 then f.roundQuotient digits (Nat.pow 10 (-exponent).toNat)
    else f.roundQuotient (digits * Nat.pow 10 exponent.toNat) 1

/-- The pattern nearest to a value. -/
def encode (f : BinaryFormat) : BinaryValue → Nat
  | .nan => f.nanBits
  | .infinity negative => f.withSign negative f.infinityBits
  | .finite negative magnitude exponent => f.roundDyadic negative magnitude exponent

end BinaryFormat

namespace BinaryValue

/-- A finite number with its fraction cut off, toward zero. -/
def truncate? : BinaryValue → Option Int
  | .finite negative magnitude exponent =>
    let size := if exponent < 0 then magnitude / Nat.pow 2 (-exponent).toNat
      else magnitude * Nat.pow 2 exponent.toNat
    some (if negative then -(size : Int) else size)
  | _ => none

/-- Whether a number is finite and has no fraction. -/
def isIntegral : BinaryValue → Bool
  | .finite _ magnitude exponent => 0 ≤ exponent || magnitude % Nat.pow 2 (-exponent).toNat == 0
  | _ => false

end BinaryValue

/-- The exact reading of a double. -/
def BinaryValue.ofDouble (x : Float) : BinaryValue := BinaryFormat.double.decode x.toBits.toNat

/-- The double with a given pattern. -/
def doubleOfBits (bits : Nat) : Float := Float.ofBits (UInt64.ofNat bits)

/-- The double nearest to the decimal `± digits * 10 ^ exponent`. Decimals that are far too great or too
small for any double are told by their number of digits. -/
def doubleOfDecimal (negative : Bool) (digits : Nat) (exponent : Int) : Float :=
  let size : Int := (digits.log2 : Int) * 30103 / 100000 + exponent
  let bits :=
    if digits == 0 || size < -400 then BinaryFormat.double.withSign negative 0
    else if 400 < size then BinaryFormat.double.withSign negative BinaryFormat.double.infinityBits
    else BinaryFormat.double.ofDecimal negative digits exponent
  doubleOfBits bits

/-- The double nearest to an integer. -/
def doubleOfInt (n : Int) : Float := doubleOfBits (BinaryFormat.double.ofInt n)

end SnippetService
