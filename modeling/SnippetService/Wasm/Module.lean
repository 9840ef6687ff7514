import SnippetService.Wasm.Operator
import SnippetService.Wasm.Submission
/-!
A module as its binary describes it.
-/
namespace SnippetService.Wasm

/-- Operators that give the value of a global, an element or an offset. -/
abbrev ConstExpr := List Op

inductive ImportKind where
  | function (type : Nat)
  | table (t : TableType)
  | memory (t : MemoryType)
  | global (t : GlobalType)

structure Import where
  module : String
  name : String
  kind : ImportKind

inductive ExportKind where
  | function | table | memory | global
  deriving DecidableEq

structure Export where
  name : String
  kind : ExportKind
  index : Nat

structure Global where
  type : GlobalType
  init : ConstExpr

/-- What becomes of a segment when the module is instantiated. -/
inductive SegmentMode where
  /-- It is kept for later. -/
  | passive
  /-- It is copied into a table or memory. -/
  | active (target : Nat) (offset : ConstExpr)
  /-- It only declares functions that may be referred to. -/
  | declarative

structure ElementSegment where
  type : RefType
  items : List ConstExpr
  mode : SegmentMode

structure DataSegment where
  content : Bytes
  mode : SegmentMode

structure Module where
  types : List FunctionType := []
  imports : List Import := []
  /-- The types of the module's own functions. -/
  functions : List Nat := []
  tables : List TableType := []
  memories : List MemoryType := []
  globals : List Global := []
  exports : List Export := []
  start : Option Nat := none
  elements : List ElementSegment := []
  /-- The number of data segments, where it is announced. -/
  dataCount : Option Nat := none
  /-- The bodies of the module's own functions: locals, then operators. -/
  code : List Bytes := []
  data : List DataSegment := []

namespace Module

/-- The types of all functions: imported ones first. -/
def functionTypes (m : Module) : List Nat :=
  m.imports.filterMap (fun i => match i.kind with
    | .function t => some t
    | _ => none) ++ m.functions

/-- The types of all tables. -/
def tableTypes (m : Module) : List TableType :=
  m.imports.filterMap (fun i => match i.kind with
    | .table t => some t
    | _ => none) ++ m.tables

/-- The types of all memories. -/
def memoryTypes (m : Module) : List MemoryType :=
  m.imports.filterMap (fun i => match i.kind with
    | .memory t => some t
    | _ => none) ++ m.memories

/-- The types of the imported globals. -/
def importedGlobals (m : Module) : List GlobalType :=
  m.imports.filterMap fun i => match i.kind with
    | .global t => some t
    | _ => none

/-- The types of all globals. -/
def globalTypes (m : Module) : List GlobalType := m.importedGlobals ++ m.globals.map (·.type)

/-- The type of a function. -/
def functionType? (m : Module) (function : Nat) : Option FunctionType :=
  m.functionTypes[function]? >>= fun t => m.types[t]?

end Module

end SnippetService.Wasm
