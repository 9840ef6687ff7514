import SnippetService.Wasm.Operator
import SnippetService.Wasm.Trap
/-!
Arithmetic on integers of a fixed width. Results wrap; a quotient that does not exist is a trap.
-/
namespace SnippetService.Wasm

/-- The value of a test. -/
def testBit (b : Bool) : BitVec 32 := if b then 1 else 0

variable {w : Nat}

def IntUnary.apply (o : IntUnary) (a : BitVec w) : BitVec w :=
  match o with
  | clz => a.clz
  | ctz => a.ctz
  | popcnt => a.cpop
  | extend bits => (a.setWidth bits).signExtend w

/-- A quotient cut off toward zero. The least number has no quotient by minus one. -/
def divide (s : Signedness) (a b : BitVec w) : Except Trap (BitVec w) :=
  if b = 0 then .error .divisionByZero
  else match s with
    | .unsigned => .ok (a.udiv b)
    | .signed => if a = BitVec.intMin w ∧ b = -1 then .error .integerOverflow else .ok (a.sdiv b)

/-- A remainder that has the sign of the dividend. -/
def remainder (s : Signedness) (a b : BitVec w) : Except Trap (BitVec w) :=
  if b = 0 then .error .divisionByZero
  else match s with
    | .unsigned => .ok (a.umod b)
    | .signed => .ok (a.srem b)

/-- Shifts and rotations take their amount modulo the width. -/
def shiftAmount (b : BitVec w) : Nat := b.toNat % w

def IntBinary.apply (o : IntBinary) (a b : BitVec w) : Except Trap (BitVec w) :=
  match o with
  | add => .ok (a + b)
  | sub => .ok (a - b)
  | mul => .ok (a * b)
  | div s => divide s a b
  | rem s => remainder s a b
  | and => .ok (a &&& b)
  | or => .ok (a ||| b)
  | xor => .ok (a ^^^ b)
  | shl => .ok (a <<< shiftAmount b)
  | shr .unsigned => .ok (a >>> shiftAmount b)
  | shr .signed => .ok (a.sshiftRight (shiftAmount b))
  | rotl => .ok (a.rotateLeft (shiftAmount b))
  | rotr => .ok (a.rotateRight (shiftAmount b))

def IntCompare.apply (o : IntCompare) (a b : BitVec w) : Bool :=
  match o with
  | eq => a == b
  | ne => a != b
  | lt .signed => a.slt b
  | lt .unsigned => a.ult b
  | gt .signed => b.slt a
  | gt .unsigned => b.ult a
  | le .signed => a.sle b
  | le .unsigned => a.ule b
  | ge .signed => b.sle a
  | ge .unsigned => b.ule a

end SnippetService.Wasm
