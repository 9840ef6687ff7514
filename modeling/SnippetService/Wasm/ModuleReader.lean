import SnippetService.Wasm.OperatorReader
/-!
A module in its binary form: a header, and sections in a fixed order with custom ones between them.
-/
namespace SnippetService.Wasm

namespace Reader

def importItem : Reader Import := do
  let module ← name
  let field ← name
  match ← byte with
  | 0 => return ⟨module, field, .function (← u32)⟩
  | 1 => return ⟨module, field, .table (← tableType)⟩
  | 2 => return ⟨module, field, .memory (← limits)⟩
  | 3 => return ⟨module, field, .global (← globalType)⟩
  | _ => failure

def exportItem : Reader Export := do
  let field ← name
  match ← byte with
  | 0 => return ⟨field, .function, ← u32⟩
  | 1 => return ⟨field, .table, ← u32⟩
  | 2 => return ⟨field, .memory, ← u32⟩
  | 3 => return ⟨field, .global, ← u32⟩
  | _ => failure

def globalItem : Reader Global := return ⟨← globalType, ← constExpr⟩

/-- Elements given as functions. -/
def functionItems : Reader (List ConstExpr) := return (← vector u32).map fun i => [.refFunc i]

/-- An element segment. Three bits tell whether it is kept back, names its table or is declarative, and
holds expressions. -/
def elementSegment : Reader ElementSegment := do
  match ← u32 with
  | 0 =>
    let offset ← constExpr
    return ⟨.function, ← functionItems, .active 0 offset⟩
  | 1 =>
    expect 0
    return ⟨.function, ← functionItems, .passive⟩
  | 2 =>
    let table ← u32
    let offset ← constExpr
    expect 0
    return ⟨.function, ← functionItems, .active table offset⟩
  | 3 =>
    expect 0
    return ⟨.function, ← functionItems, .declarative⟩
  | 4 =>
    let offset ← constExpr
    return ⟨.function, ← vector constExpr, .active 0 offset⟩
  | 5 =>
    let t ← refType
    return ⟨t, ← vector constExpr, .passive⟩
  | 6 =>
    let table ← u32
    let offset ← constExpr
    let t ← refType
    return ⟨t, ← vector constExpr, .active table offset⟩
  | 7 =>
    let t ← refType
    return ⟨t, ← vector constExpr, .declarative⟩
  | _ => failure

/-- A run of bytes with its length in front. -/
def sized : Reader Bytes := do take (← u32)

def dataSegment : Reader DataSegment := do
  match ← u32 with
  | 0 =>
    let offset ← constExpr
    return ⟨← sized, .active 0 offset⟩
  | 1 => return ⟨← sized, .passive⟩
  | 2 =>
    let memory ← u32
    let offset ← constExpr
    return ⟨← sized, .active memory offset⟩
  | _ => failure

end Reader

namespace Module

open Reader

/-- The place of a section in the order of sections. -/
def sectionRank : Nat → Option Nat
  | 1 => some 1
  | 2 => some 2
  | 3 => some 3
  | 4 => some 4
  | 5 => some 5
  | 6 => some 6
  | 7 => some 7
  | 8 => some 8
  | 9 => some 9
  | 12 => some 10
  | 10 => some 11
  | 11 => some 12
  | _ => none

/-- A module with one more section. -/
def withSection (m : Module) (id : Nat) (content : Bytes) : Option Module := do
  match id with
  | 1 => return { m with types := ← whole (vector functionType) content }
  | 2 => return { m with imports := ← whole (vector importItem) content }
  | 3 => return { m with functions := ← whole (vector u32) content }
  | 4 => return { m with tables := ← whole (vector tableType) content }
  | 5 => return { m with memories := ← whole (vector limits) content }
  | 6 => return { m with globals := ← whole (vector globalItem) content }
  | 7 => return { m with exports := ← whole (vector exportItem) content }
  | 8 => return { m with start := some (← whole u32 content) }
  | 9 => return { m with elements := ← whole (vector elementSegment) content }
  | 10 => return { m with code := ← whole (vector sized) content }
  | 11 => return { m with data := ← whole (vector dataSegment) content }
  | 12 => return { m with dataCount := some (← whole u32 content) }
  | _ => none

/-- The sections of a module; `rank` is that of the last one. A custom section has a name, and may stand
anywhere. -/
def readSections : Nat → Nat → Module → Bytes → Option Module
  | _, _, m, [] => some m
  | 0, _, _, _ => none
  | fuel + 1, rank, m, bytes =>
    match (return (← byte, ← sized) : Reader (Nat × Bytes)) bytes with
    | none => none
    | some ((0, content), rest) => (name content).bind fun _ => readSections fuel rank m rest
    | some ((id, content), rest) =>
      match sectionRank id with
      | none => none
      | some next =>
        if rank < next then
          match m.withSection id content with
          | some m => readSections fuel next m rest
          | none => none
        else none

/-- The header of a module: its mark, and the version of the format. -/
def header : Bytes := [0, 0x61, 0x73, 0x6d, 1, 0, 0, 0]

/-- The module that bytes describe. -/
def read (bytes : Bytes) : Option Module :=
  if header.isPrefixOf bytes then readSections bytes.length 0 {} (bytes.drop header.length) else none

end Module

end SnippetService.Wasm
