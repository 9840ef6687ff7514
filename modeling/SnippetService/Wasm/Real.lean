import SnippetService.Numeric.Arithmetic
import SnippetService.Wasm.Operator
import SnippetService.Wasm.Trap
/-!
Floats, kept as their bits, and the ways between them and integers.
-/
namespace SnippetService.Wasm

/-- The format of the floats of a width. -/
def Width.format : Width → BinaryFormat
  | w32 => .single
  | w64 => .double

def FloatUnary.apply (o : FloatUnary) (w : Width) (a : BitVec w.bits) : BitVec w.bits :=
  let f := w.format
  .ofNat _ <| match o with
    | abs => f.abs a.toNat
    | neg => f.neg a.toNat
    | ceil => f.round .up a.toNat
    | floor => f.round .down a.toNat
    | trunc => f.round .towardZero a.toNat
    | nearest => f.round .toEven a.toNat
    | sqrt => f.sqrt a.toNat

def FloatBinary.apply (o : FloatBinary) (w : Width) (a b : BitVec w.bits) : BitVec w.bits :=
  let f := w.format
  .ofNat _ <| match o with
    | add => f.add a.toNat b.toNat
    | sub => f.sub a.toNat b.toNat
    | mul => f.mul a.toNat b.toNat
    | div => f.div a.toNat b.toNat
    | min => f.min a.toNat b.toNat
    | max => f.max a.toNat b.toNat
    | copysign => f.copySign a.toNat b.toNat

def FloatCompare.apply (o : FloatCompare) (w : Width) (a b : BitVec w.bits) : Bool :=
  let f := w.format
  match o with
  | eq => f.eq a.toNat b.toNat
  | ne => !f.eq a.toNat b.toNat
  | lt => f.lt a.toNat b.toNat
  | gt => f.lt b.toNat a.toNat
  | le => f.lt a.toNat b.toNat || f.eq a.toNat b.toNat
  | ge => f.lt b.toNat a.toNat || f.eq a.toNat b.toNat

/-- The least integer of a width. -/
def leastInt (w : Width) : Signedness → Int
  | .signed => -Int.pow 2 (w.bits - 1)
  | .unsigned => 0

/-- The greatest integer of a width. -/
def greatestInt (w : Width) : Signedness → Int
  | .signed => Int.pow 2 (w.bits - 1) - 1
  | .unsigned => Int.pow 2 w.bits - 1

/-- A float without its fraction, as an integer. -/
def truncate (target source : Width) (s : Signedness) (a : BitVec source.bits) :
    Except Trap (BitVec target.bits) :=
  match source.format.decode a.toNat with
  | .nan => .error .invalidConversion
  | v =>
    match v.truncate? with
    | some n =>
      if leastInt target s ≤ n ∧ n ≤ greatestInt target s then .ok (.ofInt _ n)
      else .error .integerOverflow
    | none => .error .integerOverflow

/-- A float without its fraction, as the nearest integer of a width; zero if it is no number. -/
def truncateSaturating (target source : Width) (s : Signedness) (a : BitVec source.bits) :
    BitVec target.bits :=
  match source.format.decode a.toNat with
  | .nan => 0
  | .infinity negative => .ofInt _ (if negative then leastInt target s else greatestInt target s)
  | v => .ofInt _ (max (leastInt target s) (min (greatestInt target s) (v.truncate?.getD 0)))

/-- The integer that bits stand for. -/
def intValue (s : Signedness) {w : Nat} (a : BitVec w) : Int :=
  match s with
  | .signed => a.toInt
  | .unsigned => a.toNat

end SnippetService.Wasm
