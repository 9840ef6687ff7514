import Std.Data.HashMap
import SnippetService.Wasm.Module
/-!
Linear memories and tables. A byte that has not been written is zero.
-/
namespace SnippetService.Wasm

structure Memory where
  /-- The size in pages. -/
  pages : Nat
  /-- The number of pages that the memory may have. -/
  greatest : Nat
  /-- The number of pages that the module lets it have. -/
  declared : Nat
  written : Std.HashMap Nat UInt8 := {}

namespace Memory

/-- The size in bytes. -/
def size (m : Memory) : Nat := m.pages * pageSize

def byte (m : Memory) (address : Nat) : UInt8 := (m.written[address]?).getD 0

/-- Whether a run of bytes is there. -/
def holds (m : Memory) (address count : Nat) : Bool := address + count ≤ m.size

/-- The number that bytes from an address up stand for, the lowest first. -/
def number (m : Memory) (address : Nat) : Nat → Nat
  | 0 => 0
  | count + 1 => (m.byte address).toNat + 256 * m.number (address + 1) count

/-- Bytes from an address up. -/
def bytes (m : Memory) (address : Nat) : Nat → Bytes
  | 0 => []
  | count + 1 => m.byte address :: m.bytes (address + 1) count

/-- Write bytes from an address up. -/
def write (m : Memory) (address : Nat) : Bytes → Memory
  | [] => m
  | b :: rest => ({ m with written := m.written.insert address b } : Memory).write (address + 1) rest

/-- Write the low bytes of a number from an address up. -/
def writeNumber (m : Memory) (address n : Nat) : Nat → Memory
  | 0 => m
  | count + 1 =>
    ({ m with written := m.written.insert address (UInt8.ofNat n) } : Memory).writeNumber
      (address + 1) (n / 256) count

/-- Write one byte many times. -/
def fill (m : Memory) (address : Nat) (b : UInt8) : Nat → Memory
  | 0 => m
  | count + 1 =>
    ({ m with written := m.written.insert address b } : Memory).fill (address + 1) b count

/-- Add pages, if the memory may have them. -/
def grow? (m : Memory) (delta : Nat) : Option Memory :=
  if m.pages + delta ≤ m.greatest then some { m with pages := m.pages + delta } else none

end Memory

/-- A table of references. -/
structure Elements (α : Type) where
  items : Array α
  greatest : Nat

namespace Elements

variable {α : Type}

/-- Put items in the place of those from an index up. -/
def write (t : Elements α) (index : Nat) : List α → Elements α
  | [] => t
  | a :: rest => ({ t with items := t.items.setIfInBounds index a } : Elements α).write (index + 1) rest

/-- Whether a run of items is there. -/
def holds (t : Elements α) (index count : Nat) : Bool := index + count ≤ t.items.size

/-- Add items, if the table may have them. -/
def grow? (t : Elements α) (a : α) (delta : Nat) : Option (Elements α) :=
  if t.items.size + delta ≤ t.greatest then
    some { t with items := t.items ++ Array.replicate delta a }
  else none

end Elements

end SnippetService.Wasm
