import SnippetService.Wasm.Types
/-!
The operators of function bodies. A body is a flat sequence: `block`, `loop` and `ifThen` open a region,
which reaches to its `endRegion`, with at most one `otherwise` in an `ifThen`.
-/
namespace SnippetService.Wasm

inductive Signedness where
  | signed | unsigned
  deriving DecidableEq

inductive IntUnary where
  /-- The number of leading zeros. -/
  | clz
  /-- The number of trailing zeros. -/
  | ctz
  /-- The number of ones. -/
  | popcnt
  /-- The value of the low bits, as a signed number. -/
  | extend (bits : Nat)

inductive IntBinary where
  | add | sub | mul
  | div (s : Signedness)
  | rem (s : Signedness)
  | and | or | xor | shl
  | shr (s : Signedness)
  | rotl | rotr

inductive IntCompare where
  | eq | ne
  | lt (s : Signedness)
  | gt (s : Signedness)
  | le (s : Signedness)
  | ge (s : Signedness)

inductive FloatUnary where
  | abs | neg | ceil | floor | trunc | nearest | sqrt

inductive FloatBinary where
  | add | sub | mul | div | min | max | copysign

inductive FloatCompare where
  | eq | ne | lt | gt | le | ge

inductive Conversion where
  /-- The low half of a wide integer. -/
  | wrap
  /-- A narrow integer as a wide one. -/
  | widen (s : Signedness)
  /-- A float without its fraction as an integer; what does not fit is a trap, or goes to the nearest end
  of the range. -/
  | truncate (target source : Width) (s : Signedness) (saturating : Bool)
  | convert (target source : Width) (s : Signedness)
  | demote
  | promote
  /-- The bits of a float as an integer. -/
  | floatBits (w : Width)
  /-- The float with the bits of an integer. -/
  | ofBits (w : Width)

/-- What a region takes and leaves. -/
inductive RegionType where
  | empty
  | value (t : ValueType)
  /-- A type of the module. -/
  | indexed (i : Nat)

/-- Where in which memory an access starts, relative to its address operand, and the alignment it
promises. -/
structure Access where
  alignment : Nat
  offset : Nat
  memory : Nat

/-- How a value lies in memory: in full, or cut down to fewer bits. -/
structure Layout where
  value : ValueType
  bytes : Nat
  extension : Signedness

inductive Op where
  | unreachable
  | nop
  | block (t : RegionType)
  | loop (t : RegionType)
  | ifThen (t : RegionType)
  | otherwise
  | endRegion
  | br (label : Nat)
  | brIf (label : Nat)
  | brTable (labels : List Nat) (fallback : Nat)
  | ret
  | call (function : Nat)
  | callIndirect (type table : Nat)
  | returnCall (function : Nat)
  | returnCallIndirect (type table : Nat)
  | drop
  /-- One of two values; without a type they are numbers. -/
  | select (t : Option ValueType)
  | localGet (i : Nat)
  | localSet (i : Nat)
  | localTee (i : Nat)
  | globalGet (i : Nat)
  | globalSet (i : Nat)
  | tableGet (i : Nat)
  | tableSet (i : Nat)
  | tableSize (i : Nat)
  | tableGrow (i : Nat)
  | tableFill (i : Nat)
  | tableCopy (target source : Nat)
  | tableInit (table segment : Nat)
  | elemDrop (segment : Nat)
  | load (layout : Layout) (a : Access)
  | store (layout : Layout) (a : Access)
  | memorySize (memory : Nat)
  | memoryGrow (memory : Nat)
  | memoryFill (memory : Nat)
  | memoryCopy (target source : Nat)
  | memoryInit (memory segment : Nat)
  | dataDrop (segment : Nat)
  | i32Const (n : BitVec 32)
  | i64Const (n : BitVec 64)
  | f32Const (bits : BitVec 32)
  | f64Const (bits : BitVec 64)
  | refNull (t : RefType)
  | refIsNull
  | refFunc (function : Nat)
  | intEqz (w : Width)
  | intUnary (w : Width) (o : IntUnary)
  | intBinary (w : Width) (o : IntBinary)
  | intCompare (w : Width) (o : IntCompare)
  | floatUnary (w : Width) (o : FloatUnary)
  | floatBinary (w : Width) (o : FloatBinary)
  | floatCompare (w : Width) (o : FloatCompare)
  | convert (c : Conversion)

end SnippetService.Wasm
