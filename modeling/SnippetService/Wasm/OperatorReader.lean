import SnippetService.Wasm.ByteReader
/-!
Operators in their binary form: one byte, or a byte and a number, and what the operator needs beside it.
-/
namespace SnippetService.Wasm

open Signedness

/-- The operators of a byte that need nothing beside it. -/
def numericOp? : Nat → Option Op
  | 0x45 => some (.intEqz .w32)
  | 0x46 => some (.intCompare .w32 .eq)
  | 0x47 => some (.intCompare .w32 .ne)
  | 0x48 => some (.intCompare .w32 (.lt signed))
  | 0x49 => some (.intCompare .w32 (.lt unsigned))
  | 0x4a => some (.intCompare .w32 (.gt signed))
  | 0x4b => some (.intCompare .w32 (.gt unsigned))
  | 0x4c => some (.intCompare .w32 (.le signed))
  | 0x4d => some (.intCompare .w32 (.le unsigned))
  | 0x4e => some (.intCompare .w32 (.ge signed))
  | 0x4f => some (.intCompare .w32 (.ge unsigned))
  | 0x50 => some (.intEqz .w64)
  | 0x51 => some (.intCompare .w64 .eq)
  | 0x52 => some (.intCompare .w64 .ne)
  | 0x53 => some (.intCompare .w64 (.lt signed))
  | 0x54 => some (.intCompare .w64 (.lt unsigned))
  | 0x55 => some (.intCompare .w64 (.gt signed))
  | 0x56 => some (.intCompare .w64 (.gt unsigned))
  | 0x57 => some (.intCompare .w64 (.le signed))
  | 0x58 => some (.intCompare .w64 (.le unsigned))
  | 0x59 => some (.intCompare .w64 (.ge signed))
  | 0x5a => some (.intCompare .w64 (.ge unsigned))
  | 0x5b => some (.floatCompare .w32 .eq)
  | 0x5c => some (.floatCompare .w32 .ne)
  | 0x5d => some (.floatCompare .w32 .lt)
  | 0x5e => some (.floatCompare .w32 .gt)
  | 0x5f => some (.floatCompare .w32 .le)
  | 0x60 => some (.floatCompare .w32 .ge)
  | 0x61 => some (.floatCompare .w64 .eq)
  | 0x62 => some (.floatCompare .w64 .ne)
  | 0x63 => some (.floatCompare .w64 .lt)
  | 0x64 => some (.floatCompare .w64 .gt)
  | 0x65 => some (.floatCompare .w64 .le)
  | 0x66 => some (.floatCompare .w64 .ge)
  | 0x67 => some (.intUnary .w32 .clz)
  | 0x68 => some (.intUnary .w32 .ctz)
  | 0x69 => some (.intUnary .w32 .popcnt)
  | 0x6a => some (.intBinary .w32 .add)
  | 0x6b => some (.intBinary .w32 .sub)
  | 0x6c => some (.intBinary .w32 .mul)
  | 0x6d => some (.intBinary .w32 (.div signed))
  | 0x6e => some (.intBinary .w32 (.div unsigned))
  | 0x6f => some (.intBinary .w32 (.rem signed))
  | 0x70 => some (.intBinary .w32 (.rem unsigned))
  | 0x71 => some (.intBinary .w32 .and)
  | 0x72 => some (.intBinary .w32 .or)
  | 0x73 => some (.intBinary .w32 .xor)
  | 0x74 => some (.intBinary .w32 .shl)
  | 0x75 => some (.intBinary .w32 (.shr signed))
  | 0x76 => some (.intBinary .w32 (.shr unsigned))
  | 0x77 => some (.intBinary .w32 .rotl)
  | 0x78 => some (.intBinary .w32 .rotr)
  | 0x79 => some (.intUnary .w64 .clz)
  | 0x7a => some (.intUnary .w64 .ctz)
  | 0x7b => some (.intUnary .w64 .popcnt)
  | 0x7c => some (.intBinary .w64 .add)
  | 0x7d => some (.intBinary .w64 .sub)
  | 0x7e => some (.intBinary .w64 .mul)
  | 0x7f => some (.intBinary .w64 (.div signed))
  | 0x80 => some (.intBinary .w64 (.div unsigned))
  | 0x81 => some (.intBinary .w64 (.rem signed))
  | 0x82 => some (.intBinary .w64 (.rem unsigned))
  | 0x83 => some (.intBinary .w64 .and)
  | 0x84 => some (.intBinary .w64 .or)
  | 0x85 => some (.intBinary .w64 .xor)
  | 0x86 => some (.intBinary .w64 .shl)
  | 0x87 => some (.intBinary .w64 (.shr signed))
  | 0x88 => some (.intBinary .w64 (.shr unsigned))
  | 0x89 => some (.intBinary .w64 .rotl)
  | 0x8a => some (.intBinary .w64 .rotr)
  | 0x8b => some (.floatUnary .w32 .abs)
  | 0x8c => some (.floatUnary .w32 .neg)
  | 0x8d => some (.floatUnary .w32 .ceil)
  | 0x8e => some (.floatUnary .w32 .floor)
  | 0x8f => some (.floatUnary .w32 .trunc)
  | 0x90 => some (.floatUnary .w32 .nearest)
  | 0x91 => some (.floatUnary .w32 .sqrt)
  | 0x92 => some (.floatBinary .w32 .add)
  | 0x93 => some (.floatBinary .w32 .sub)
  | 0x94 => some (.floatBinary .w32 .mul)
  | 0x95 => some (.floatBinary .w32 .div)
  | 0x96 => some (.floatBinary .w32 .min)
  | 0x97 => some (.floatBinary .w32 .max)
  | 0x98 => some (.floatBinary .w32 .copysign)
  | 0x99 => some (.floatUnary .w64 .abs)
  | 0x9a => some (.floatUnary .w64 .neg)
  | 0x9b => some (.floatUnary .w64 .ceil)
  | 0x9c => some (.floatUnary .w64 .floor)
  | 0x9d => some (.floatUnary .w64 .trunc)
  | 0x9e => some (.floatUnary .w64 .nearest)
  | 0x9f => some (.floatUnary .w64 .sqrt)
  | 0xa0 => some (.floatBinary .w64 .add)
  | 0xa1 => some (.floatBinary .w64 .sub)
  | 0xa2 => some (.floatBinary .w64 .mul)
  | 0xa3 => some (.floatBinary .w64 .div)
  | 0xa4 => some (.floatBinary .w64 .min)
  | 0xa5 => some (.floatBinary .w64 .max)
  | 0xa6 => some (.floatBinary .w64 .copysign)
  | 0xa7 => some (.convert .wrap)
  | 0xa8 => some (.convert (.truncate .w32 .w32 signed false))
  | 0xa9 => some (.convert (.truncate .w32 .w32 unsigned false))
  | 0xaa => some (.convert (.truncate .w32 .w64 signed false))
  | 0xab => some (.convert (.truncate .w32 .w64 unsigned false))
  | 0xac => some (.convert (.widen signed))
  | 0xad => some (.convert (.widen unsigned))
  | 0xae => some (.convert (.truncate .w64 .w32 signed false))
  | 0xaf => some (.convert (.truncate .w64 .w32 unsigned false))
  | 0xb0 => some (.convert (.truncate .w64 .w64 signed false))
  | 0xb1 => some (.convert (.truncate .w64 .w64 unsigned false))
  | 0xb2 => some (.convert (.convert .w32 .w32 signed))
  | 0xb3 => some (.convert (.convert .w32 .w32 unsigned))
  | 0xb4 => some (.convert (.convert .w32 .w64 signed))
  | 0xb5 => some (.convert (.convert .w32 .w64 unsigned))
  | 0xb6 => some (.convert .demote)
  | 0xb7 => some (.convert (.convert .w64 .w32 signed))
  | 0xb8 => some (.convert (.convert .w64 .w32 unsigned))
  | 0xb9 => some (.convert (.convert .w64 .w64 signed))
  | 0xba => some (.convert (.convert .w64 .w64 unsigned))
  | 0xbb => some (.convert .promote)
  | 0xbc => some (.convert (.floatBits .w32))
  | 0xbd => some (.convert (.floatBits .w64))
  | 0xbe => some (.convert (.ofBits .w32))
  | 0xbf => some (.convert (.ofBits .w64))
  | 0xc0 => some (.intUnary .w32 (.extend 8))
  | 0xc1 => some (.intUnary .w32 (.extend 16))
  | 0xc2 => some (.intUnary .w64 (.extend 8))
  | 0xc3 => some (.intUnary .w64 (.extend 16))
  | 0xc4 => some (.intUnary .w64 (.extend 32))
  | _ => none

/-- The loads and stores, by their bytes. -/
def accessOp? : Nat → Option (Access → Op)
  | 0x28 => some (.load ⟨.i32, 4, unsigned⟩)
  | 0x29 => some (.load ⟨.i64, 8, unsigned⟩)
  | 0x2a => some (.load ⟨.f32, 4, unsigned⟩)
  | 0x2b => some (.load ⟨.f64, 8, unsigned⟩)
  | 0x2c => some (.load ⟨.i32, 1, signed⟩)
  | 0x2d => some (.load ⟨.i32, 1, unsigned⟩)
  | 0x2e => some (.load ⟨.i32, 2, signed⟩)
  | 0x2f => some (.load ⟨.i32, 2, unsigned⟩)
  | 0x30 => some (.load ⟨.i64, 1, signed⟩)
  | 0x31 => some (.load ⟨.i64, 1, unsigned⟩)
  | 0x32 => some (.load ⟨.i64, 2, signed⟩)
  | 0x33 => some (.load ⟨.i64, 2, unsigned⟩)
  | 0x34 => some (.load ⟨.i64, 4, signed⟩)
  | 0x35 => some (.load ⟨.i64, 4, unsigned⟩)
  | 0x36 => some (.store ⟨.i32, 4, unsigned⟩)
  | 0x37 => some (.store ⟨.i64, 8, unsigned⟩)
  | 0x38 => some (.store ⟨.f32, 4, unsigned⟩)
  | 0x39 => some (.store ⟨.f64, 8, unsigned⟩)
  | 0x3a => some (.store ⟨.i32, 1, unsigned⟩)
  | 0x3b => some (.store ⟨.i32, 2, unsigned⟩)
  | 0x3c => some (.store ⟨.i64, 1, unsigned⟩)
  | 0x3d => some (.store ⟨.i64, 2, unsigned⟩)
  | 0x3e => some (.store ⟨.i64, 4, unsigned⟩)
  | _ => none

/-- The conversions that go to the nearest end of the range, by their number. -/
def saturating? : Nat → Option Op
  | 0 => some (.convert (.truncate .w32 .w32 signed true))
  | 1 => some (.convert (.truncate .w32 .w32 unsigned true))
  | 2 => some (.convert (.truncate .w32 .w64 signed true))
  | 3 => some (.convert (.truncate .w32 .w64 unsigned true))
  | 4 => some (.convert (.truncate .w64 .w32 signed true))
  | 5 => some (.convert (.truncate .w64 .w32 unsigned true))
  | 6 => some (.convert (.truncate .w64 .w64 signed true))
  | 7 => some (.convert (.truncate .w64 .w64 unsigned true))
  | _ => none

namespace Reader

/-- The type of a region: nothing, one value, or a type of the module by its index. -/
def regionType : Reader RegionType := fun bytes =>
  match bytes with
  | b :: rest =>
    if b == 0x40 then some (.empty, rest)
    else match valueType? b.toNat with
      | some t => some (.value t, rest)
      | none =>
        match signed 33 bytes with
        | some (.ofNat i, rest) => some (.indexed i, rest)
        | _ => none
  | [] => none

/-- A bit of the alignment says that a memory is named. -/
def access : Reader Access := do
  let a ← u32
  if a < 64 then return ⟨a, ← u32, 0⟩
  else if a < 128 then
    let memory ← u32
    return ⟨a - 64, ← u32, memory⟩
  else failure

/-- The operators with a number behind their first byte. -/
def numberedOp : Reader Op := do
  let n ← u32
  match saturating? n with
  | some o => return o
  | none =>
    match n with
    | 8 =>
      let segment ← u32
      return .memoryInit (← u32) segment
    | 9 => return .dataDrop (← u32)
    | 10 =>
      let target ← u32
      return .memoryCopy target (← u32)
    | 11 => return .memoryFill (← u32)
    | 12 =>
      let segment ← u32
      return .tableInit (← u32) segment
    | 13 => return .elemDrop (← u32)
    | 14 =>
      let target ← u32
      return .tableCopy target (← u32)
    | 15 => return .tableGrow (← u32)
    | 16 => return .tableSize (← u32)
    | 17 => return .tableFill (← u32)
    | _ => failure

/-- What stands behind the first byte of the operators that move control or data. -/
def otherOp (b : Nat) : Reader Op := do
  match b with
  | 0x00 => return .unreachable
  | 0x01 => return .nop
  | 0x02 => return .block (← regionType)
  | 0x03 => return .loop (← regionType)
  | 0x04 => return .ifThen (← regionType)
  | 0x05 => return .otherwise
  | 0x0b => return .endRegion
  | 0x0c => return .br (← u32)
  | 0x0d => return .brIf (← u32)
  | 0x0e => return .brTable (← vector u32) (← u32)
  | 0x0f => return .ret
  | 0x10 => return .call (← u32)
  | 0x11 =>
    let type ← u32
    return .callIndirect type (← u32)
  | 0x12 => return .returnCall (← u32)
  | 0x13 =>
    let type ← u32
    return .returnCallIndirect type (← u32)
  | 0x1a => return .drop
  | 0x1b => return .select none
  | 0x1c =>
    match ← vector valueType with
    | [t] => return .select (some t)
    | _ => failure
  | 0x20 => return .localGet (← u32)
  | 0x21 => return .localSet (← u32)
  | 0x22 => return .localTee (← u32)
  | 0x23 => return .globalGet (← u32)
  | 0x24 => return .globalSet (← u32)
  | 0x25 => return .tableGet (← u32)
  | 0x26 => return .tableSet (← u32)
  | 0x3f => return .memorySize (← u32)
  | 0x40 => return .memoryGrow (← u32)
  | 0x41 => return .i32Const (.ofInt 32 (← signed 32))
  | 0x42 => return .i64Const (.ofInt 64 (← signed 64))
  | 0x43 => return .f32Const (.ofNat 32 (littleEndian (← take 4)))
  | 0x44 => return .f64Const (.ofNat 64 (littleEndian (← take 8)))
  | 0xd0 => return .refNull (← refType)
  | 0xd1 => return .refIsNull
  | 0xd2 => return .refFunc (← u32)
  | 0xfc => numberedOp
  | _ => failure

def op : Reader Op := do
  let b ← byte
  match numericOp? b with
  | some o => return o
  | none =>
    match accessOp? b with
    | some o => return o (← access)
    | none => otherOp b

/-- Operators up to the end of the region that they stand in, which is none of them. -/
def constExpr : Reader ConstExpr := fun bytes => go bytes.length bytes
where
  go : Nat → Bytes → Option (ConstExpr × Bytes)
    | 0, _ => none
    | fuel + 1, bytes =>
      match op bytes with
      | some (.endRegion, rest) => some ([], rest)
      | some (o, rest) => (go fuel rest).map fun (os, rest) => (o :: os, rest)
      | none => none

end Reader

end SnippetService.Wasm
