import SnippetService.Numeric.Binary
/-!
Arithmetic on bit patterns of a binary format. Each operation takes its operands exactly, and rounds the
exact result once, to the nearest member of the format. An operand that is not a number is the result,
made quiet; a result that is undefined is the negative quiet pattern.
-/
namespace SnippetService.BinaryFormat

variable (f : BinaryFormat)

/-- Whether a pattern is no number. -/
def isNaN (bits : Nat) : Bool :=
  match f.decode bits with
  | .nan => true
  | _ => false

/-- A pattern that is no number, marked as one that raises no signal. -/
def quiet (bits : Nat) : Nat := bits ||| Nat.pow 2 (f.fractionBits - 1)

/-- The result of an operation that has none. -/
def undefinedBits : Nat := f.withSign true f.nanBits

/-- Whether the sign bit is set. -/
def isNegative (bits : Nat) : Bool := bits / f.signBit % 2 == 1

/-- A pattern without its sign. -/
def magnitudeBits (bits : Nat) : Nat := bits % f.signBit

def abs (a : Nat) : Nat := f.magnitudeBits a

def neg (a : Nat) : Nat := f.withSign (!f.isNegative a) (f.magnitudeBits a)

/-- The size of one number with the sign of another. -/
def copySign (a b : Nat) : Nat := f.withSign (f.isNegative b) (f.magnitudeBits a)

/-- An operation on two numbers, for all patterns. -/
def onPair (op : BinaryValue → BinaryValue → Nat) (a b : Nat) : Nat :=
  if f.isNaN a then f.quiet a
  else if f.isNaN b then f.quiet b
  else op (f.decode a) (f.decode b)

/-- An operation on one number, for all patterns. -/
def onOne (op : BinaryValue → Nat) (a : Nat) : Nat :=
  if f.isNaN a then f.quiet a else op (f.decode a)

/-- A signed number of units of `2 ^ low`. -/
def units (negative : Bool) (magnitude : Nat) (exponent low : Int) : Int :=
  let n : Int := magnitude * Int.pow 2 (exponent - low).toNat
  if negative then -n else n

/-- The sum of two numbers. A sum of zero is negative only if both are. -/
def sum : BinaryValue → BinaryValue → Nat
  | .finite n m e, .finite n' m' e' =>
    let low := min e e'
    let s := units n m e low + units n' m' e' low
    f.roundDyadic (if s == 0 then n && n' else s < 0) s.natAbs low
  | .infinity n, .infinity n' => if n == n' then f.withSign n f.infinityBits else f.undefinedBits
  | .infinity n, _ => f.withSign n f.infinityBits
  | _, .infinity n => f.withSign n f.infinityBits
  | _, _ => f.undefinedBits

/-- A number with the other sign. -/
def opposite : BinaryValue → BinaryValue
  | .finite n m e => .finite (!n) m e
  | .infinity n => .infinity (!n)
  | .nan => .nan

def product : BinaryValue → BinaryValue → Nat
  | .finite n m e, .finite n' m' e' => f.roundDyadic (n != n') (m * m') (e + e')
  | .infinity n, .infinity n' => f.withSign (n != n') f.infinityBits
  | .infinity n, .finite n' m _ | .finite n m _, .infinity n' =>
    if m == 0 then f.undefinedBits else f.withSign (n != n') f.infinityBits
  | _, _ => f.undefinedBits

def quotient : BinaryValue → BinaryValue → Nat
  | .finite n m e, .finite n' m' e' =>
    if m' == 0 then if m == 0 then f.undefinedBits else f.withSign (n != n') f.infinityBits
    else
      let d := e - e'
      f.withSign (n != n') <|
        if d < 0 then f.roundQuotient m (m' * Nat.pow 2 (-d).toNat)
        else f.roundQuotient (m * Nat.pow 2 d.toNat) m'
  | .infinity n, .finite n' _ _ => f.withSign (n != n') f.infinityBits
  | .finite n _ _, .infinity n' => f.withSign (n != n') 0
  | _, _ => f.undefinedBits

/-- The whole part of the square root. -/
def rootFloor (n : Nat) : Nat :=
  if h : n = 0 then 0
  else
    let r := 2 * rootFloor (n / 4)
    if (r + 1) * (r + 1) ≤ n then r + 1 else r
termination_by n
decreasing_by omega

/-- The square root. The digits behind the whole part of a root that is taken far enough are told apart
only as none or some. -/
def root : BinaryValue → Nat
  | .finite n m e =>
    if m == 0 then f.withSign n 0
    else if n then f.undefinedBits
    else
      let shift := 2 * f.fractionBits + 4 + (e % 2).toNat
      let scaled := m * Nat.pow 2 shift
      let r := rootFloor scaled
      let rest := if r * r == scaled then 0 else 1
      f.roundDyadic false (2 * r + rest) ((e - shift) / 2 - 1)
  | .infinity false => f.infinityBits
  | _ => f.undefinedBits

/-- The ways to a whole number. -/
inductive Rounding where
  | up | down | towardZero | toEven

/-- A whole number next to a quotient. -/
def Rounding.apply (r : Rounding) (negative : Bool) (num den : Nat) : Nat :=
  let q := num / den
  let away := if num % den == 0 then q else q + 1
  match r with
  | up => if negative then q else away
  | down => if negative then away else q
  | towardZero => q
  | toEven => roundDiv num den

/-- A number as a whole one. Zero keeps the sign of what it came from. -/
def whole (r : Rounding) : BinaryValue → Nat
  | .finite n m e =>
    if e < 0 then f.roundDyadic n (r.apply n m (Nat.pow 2 (-e).toNat)) 0 else f.roundDyadic n m e
  | v => f.encode v

/-- Whether a number is less than another. -/
def before : BinaryValue → BinaryValue → Bool
  | .finite n m e, .finite n' m' e' =>
    let low := min e e'
    units n m e low < units n' m' e' low
  | .infinity n, .infinity n' => n && !n'
  | .infinity n, .finite .. => n
  | .finite .., .infinity n => !n
  | _, _ => false

def add (a b : Nat) : Nat := f.onPair f.sum a b

def sub (a b : Nat) : Nat := f.onPair (fun x y => f.sum x (opposite y)) a b

def mul (a b : Nat) : Nat := f.onPair f.product a b

def div (a b : Nat) : Nat := f.onPair f.quotient a b

def sqrt (a : Nat) : Nat := f.onOne f.root a

def round (r : Rounding) (a : Nat) : Nat := f.onOne (f.whole r) a

/-- Whether a pattern is less than another; no pattern is if one of them is no number. -/
def lt (a b : Nat) : Bool := before (f.decode a) (f.decode b)

/-- Whether two patterns stand for the same number. -/
def eq (a b : Nat) : Bool := !f.isNaN a && !f.isNaN b && !f.lt a b && !f.lt b a

/-- The lesser of two numbers; of two zeros the negative one. -/
def min (a b : Nat) : Nat :=
  if f.isNaN a then f.quiet a
  else if f.isNaN b then f.quiet b
  else if f.lt a b then a
  else if f.lt b a then b
  else if f.isNegative a then a else b

/-- The greater of two numbers; of two zeros the positive one. -/
def max (a b : Nat) : Nat :=
  if f.isNaN a then f.quiet a
  else if f.isNaN b then f.quiet b
  else if f.lt a b then b
  else if f.lt b a then a
  else if f.isNegative a then b else a

/-- The member of another format nearest to a number. A pattern that is no number keeps its sign and the
leading bits of its fraction. -/
def convert (g : BinaryFormat) (a : Nat) : Nat :=
  if f.isNaN a then
    let fraction := a % Nat.pow 2 f.fractionBits
    g.quiet <| g.withSign (f.isNegative a) <| g.infinityBits +
      (if f.fractionBits ≤ g.fractionBits then fraction * Nat.pow 2 (g.fractionBits - f.fractionBits)
       else fraction / Nat.pow 2 (f.fractionBits - g.fractionBits))
  else g.encode (f.decode a)

end SnippetService.BinaryFormat
