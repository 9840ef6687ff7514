/-!
The types of WebAssembly: of values, functions, tables, memories and globals.
-/
namespace SnippetService.Wasm

/-- The two widths of numbers. -/
inductive Width where
  | w32 | w64
  deriving DecidableEq

/-- The number of bits. -/
def Width.bits : Width → Nat
  | w32 => 32
  | w64 => 64

inductive RefType where
  | function | external
  deriving DecidableEq

inductive ValueType where
  | int (w : Width)
  | float (w : Width)
  | ref (r : RefType)
  deriving DecidableEq

namespace ValueType

def i32 : ValueType := int .w32

def i64 : ValueType := int .w64

def f32 : ValueType := float .w32

def f64 : ValueType := float .w64

/-- Numbers can be chosen between without naming their type. -/
def isNumeric : ValueType → Bool
  | ref _ => false
  | _ => true

end ValueType

structure FunctionType where
  params : List ValueType
  results : List ValueType
  deriving DecidableEq

/-- A size that may grow up to a bound. -/
structure Limits where
  least : Nat
  greatest : Option Nat

/-- The size of a memory is counted in pages. -/
abbrev MemoryType := Limits

structure TableType where
  element : RefType
  limits : Limits

structure GlobalType where
  value : ValueType
  isMutable : Bool
  deriving DecidableEq

/-- The number of bytes of a page. -/
def pageSize : Nat := 65536

/-- The number of pages that an address of 32 bits can reach. -/
def pageLimit : Nat := 65536

/-- Bounds that the format leaves to the runtime. -/
structure Bounds where
  /-- The elements that a table may have. -/
  elements : Nat
  /-- The parameters and locals that a function may have. -/
  locals : Nat
  /-- The calls that may be waiting for others to return. -/
  frames : Nat

end SnippetService.Wasm
