import SnippetService.Data.Datum
import SnippetService.Numeric.Arithmetic
import SnippetService.Wasm.Types
/-!
Values of running code, and as the numbers that the host sees.
-/
namespace SnippetService.Wasm

inductive Value where
  | i32 (n : BitVec 32)
  | i64 (n : BitVec 64)
  | f32 (bits : BitVec 32)
  | f64 (bits : BitVec 64)
  /-- A function of the instance. -/
  | func (index : Option Nat)
  /-- Something that belongs to the host. -/
  | external (n : Option Int)
  deriving Inhabited

namespace Value

def type : Value → ValueType
  | i32 _ => .i32
  | i64 _ => .i64
  | f32 _ => .f32
  | f64 _ => .f64
  | func _ => .ref .function
  | external _ => .ref .external

/-- The value that a type has by default. -/
def default : ValueType → Value
  | .int .w32 => i32 0
  | .int .w64 => i64 0
  | .float .w32 => f32 0
  | .float .w64 => f64 0
  | .ref .function => func none
  | .ref .external => external none

/-- An integer of a width. -/
def int : (w : Width) → BitVec w.bits → Value
  | .w32, n => i32 n
  | .w64, n => i64 n

/-- A float of a width, by its bits. -/
def float : (w : Width) → BitVec w.bits → Value
  | .w32, bits => f32 bits
  | .w64, bits => f64 bits

/-- The null reference of a type. -/
def null : RefType → Value
  | .function => func none
  | .external => external none

/-- A value as the host sees it. Integers are signed; a null reference is null, and of a function no more is
known than the text that shows it. -/
def toDatum (reference : Nat → String) : Value → Datum
  | i32 n => .integer n.toInt
  | i64 n => .integer n.toInt
  | f32 bits => .real (doubleOfBits (BinaryFormat.single.convert .double bits.toNat))
  | f64 bits => .real (doubleOfBits bits.toNat)
  | func none | external none => .null
  | func (some i) => .object [] (reference i)
  | external (some n) => .integer n

end Value

end SnippetService.Wasm
