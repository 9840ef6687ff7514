import SnippetService.Wasm.Module
/-!
Reading bytes from the front. What is left is the state; a reader that meets anything unexpected gives
nothing.
-/
namespace SnippetService.Wasm

abbrev Reader := StateT Bytes Option

namespace Reader

def byte : Reader Nat := fun
  | [] => none
  | b :: rest => some (b.toNat, rest)

/-- A given number of bytes. -/
def take (count : Nat) : Reader Bytes := fun bytes =>
  let front := bytes.take count
  if front.length == count then some (front, bytes.drop count) else none

/-- A byte that has to be there. -/
def expect (n : Nat) : Reader Unit := do
  if (← byte) == n then return else failure

/-- A number in groups of seven bits, the lowest first; it has to be below `2 ^ bits`. -/
def unsigned (bits : Nat) : Reader Nat := do
  let b ← byte
  if b < 128 then
    if bits < 7 && Nat.pow 2 bits ≤ b then failure else return b
  else if bits ≤ 7 then failure
  else return b - 128 + 128 * (← unsigned (bits - 7))
termination_by bits
decreasing_by omega

/-- A signed number in groups of seven bits, the lowest first; the last group carries the sign. -/
def signed (bits : Nat) : Reader Int := do
  let b ← byte
  if b < 128 then
    let n : Int := if b < 64 then b else b - 128
    if bits < 7 && !(-Int.pow 2 (bits - 1) ≤ n && n < Int.pow 2 (bits - 1)) then failure else return n
  else if bits ≤ 7 then failure
  else return b - 128 + 128 * (← signed (bits - 7))
termination_by bits
decreasing_by omega

/-- An index or a count. -/
def u32 : Reader Nat := unsigned 32

/-- A number of the given bytes, the lowest first. -/
def littleEndian : Bytes → Nat
  | [] => 0
  | b :: rest => b.toNat + 256 * littleEndian rest

def replicate {α : Type} (item : Reader α) : Nat → Reader (List α)
  | 0 => return []
  | n + 1 => do
    let first ← item
    return first :: (← replicate item n)

/-- A count and that many items. -/
def vector {α : Type} (item : Reader α) : Reader (List α) := do replicate item (← u32)

/-- Text with its length in front. -/
def name : Reader String := do
  let bytes ← take (← u32)
  match String.fromUTF8? ⟨bytes.toArray⟩ with
  | some s => return s
  | none => failure

/-- Read a run of bytes as a whole. -/
def whole {α : Type} (r : Reader α) (bytes : Bytes) : Option α :=
  match r bytes with
  | some (a, []) => some a
  | _ => none

/-- Items up to the end of the input, each of at least one byte. -/
def untilEnd {α : Type} (item : Reader α) (bytes : Bytes) : Option (List α) :=
  go bytes.length bytes
where
  go : Nat → Bytes → Option (List α)
    | _, [] => some []
    | 0, _ => none
    | fuel + 1, bytes =>
      match item bytes with
      | some (a, rest) => (go fuel rest).map (a :: ·)
      | none => none

def refType : Reader RefType := do
  match ← byte with
  | 0x70 => return .function
  | 0x6f => return .external
  | _ => failure

/-- The type that a byte stands for. -/
def valueType? : Nat → Option ValueType
  | 0x7f => some .i32
  | 0x7e => some .i64
  | 0x7d => some .f32
  | 0x7c => some .f64
  | 0x70 => some (.ref .function)
  | 0x6f => some (.ref .external)
  | _ => none

def valueType : Reader ValueType := do
  match valueType? (← byte) with
  | some t => return t
  | none => failure

def functionType : Reader FunctionType := do
  expect 0x60
  return ⟨← vector valueType, ← vector valueType⟩

def limits : Reader Limits := do
  match ← byte with
  | 0 => return ⟨← u32, none⟩
  | 1 => return ⟨← u32, some (← u32)⟩
  | _ => failure

def tableType : Reader TableType := return ⟨← refType, ← limits⟩

def globalType : Reader GlobalType := do
  let t ← valueType
  match ← byte with
  | 0 => return ⟨t, false⟩
  | 1 => return ⟨t, true⟩
  | _ => failure

end Reader

end SnippetService.Wasm
