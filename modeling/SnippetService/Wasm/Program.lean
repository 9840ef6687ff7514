import SnippetService.Wasm.ModuleReader
import SnippetService.Wasm.Typing
/-!
Programs: modules that have been read and checked as a whole, with their function bodies.
-/
namespace SnippetService.Wasm

/-- The body of a function. -/
structure Body where
  type : FunctionType
  /-- The types of the locals behind the parameters. -/
  locals : List ValueType
  ops : List Op

structure Program where
  module : Module
  /-- The bodies of the module's own functions. -/
  bodies : List Body

/-- Why bytes are no program. -/
inductive LoadFault where
  | malformed
  /-- The body of a function is not sound. -/
  | unsound (function : Nat)
  deriving DecidableEq

def LoadFault.message : LoadFault → String
  | malformed => "failed to parse WebAssembly module"
  | unsound function => "failed to compile: wasm[0]::function[" ++ toString function ++ "]"

/-- Whether an operator may stand in a constant expression: constants, sums and products of them, and
imported globals that never change. -/
def Op.isConstant (m : Module) : Op → Bool
  | i32Const _ | i64Const _ | f32Const _ | f64Const _ | refNull _ | refFunc _ => true
  | intBinary _ .add | intBinary _ .sub | intBinary _ .mul => true
  | globalGet i => ((m.importedGlobals[i]?).map fun t => !t.isMutable).getD false
  | _ => false

/-- The function that an operator refers to. -/
def Op.reference? : Op → Option Nat
  | refFunc f => some f
  | _ => none

namespace Module

def functionCount (m : Module) : Nat := m.functionTypes.length

/-- Whether an expression is constant and of a type. -/
def constHasType (m : Module) (t : ValueType) (e : ConstExpr) : Bool :=
  e.all (·.isConstant m) &&
    Scope.accepts ⟨m, [t], [], List.range m.functionCount⟩ (e ++ [.endRegion])

/-- Whether limits are in order and within a bound. -/
def limitsFit (bound : Nat) (l : Limits) : Bool :=
  match l.greatest with
  | none => l.least ≤ bound
  | some greatest => l.least ≤ bound && greatest ≤ bound && l.least ≤ greatest

/-- Whether limits of a table are in order. Only its least size is bounded. -/
def tableFits (bounds : Bounds) (t : TableType) : Bool :=
  t.limits.least ≤ bounds.elements && t.limits.greatest.all (t.limits.least ≤ ·)

def elementsFit (m : Module) (e : ElementSegment) : Bool :=
  e.items.all (m.constHasType (.ref e.type)) &&
    match e.mode with
    | .active table offset =>
      ((m.tableTypes[table]?).map (·.element == e.type)).getD false && m.constHasType .i32 offset
    | _ => true

def dataFits (m : Module) (d : DataSegment) : Bool :=
  match d.mode with
  | .active memory offset => memory < m.memoryTypes.length && m.constHasType .i32 offset
  | _ => true

def exportFits (m : Module) (e : Export) : Bool :=
  match e.kind with
  | .function => e.index < m.functionCount
  | .table => e.index < m.tableTypes.length
  | .memory => e.index < m.memoryTypes.length
  | .global => e.index < m.globalTypes.length

def distinct : List String → Bool
  | [] => true
  | s :: rest => !rest.contains s && distinct rest

def startFits (m : Module) : Bool :=
  match m.start with
  | none => true
  | some f => m.functionType? f == some ⟨[], []⟩

/-- Whether everything outside of the function bodies is in order. -/
def isValid (m : Module) (bounds : Bounds) : Bool :=
  m.functionTypes.all (· < m.types.length) &&
  m.tableTypes.all (tableFits bounds) &&
  m.memoryTypes.all (limitsFit pageLimit) &&
  m.globals.all (fun g => m.constHasType g.type.value g.init) &&
  m.exports.all m.exportFits &&
  distinct (m.exports.map (·.name)) &&
  m.startFits &&
  m.elements.all m.elementsFit &&
  m.data.all m.dataFits &&
  m.code.length == m.functions.length &&
  (m.dataCount.map (· == m.data.length)).getD true

/-- The functions that bodies may refer to: those that the module mentions outside of them. -/
def declared (m : Module) : List Nat :=
  m.elements.flatMap (fun e => e.items.flatMap (·.filterMap Op.reference?)) ++
  m.globals.flatMap (fun g => g.init.filterMap Op.reference?) ++
  m.exports.filterMap fun e => if e.kind == .function then some e.index else none

/-- Locals are written as runs of one type. -/
def localRuns : Reader (List (Nat × ValueType)) :=
  Reader.vector (return (← Reader.u32, ← Reader.valueType))

/-- The body that bytes describe. -/
def body (m : Module) (bounds : Bounds) (t : FunctionType) (bytes : Bytes) : Option Body := do
  let (runs, rest) ← localRuns bytes
  if bounds.locals < runs.foldl (fun n r => n + r.1) t.params.length then failure
  let locals := runs.flatMap fun (count, t) => List.replicate count t
  let ops ← Reader.untilEnd Reader.op rest
  let s : Scope := ⟨m, t.results, t.params ++ locals, m.declared⟩
  if s.accepts ops then return ⟨t, locals, ops⟩ else failure

/-- The bodies of functions, the first of which has a given index. -/
def bodiesFrom (m : Module) (bounds : Bounds) : Nat → List (Nat × Bytes) → Except LoadFault (List Body)
  | _, [] => .ok []
  | i, (type, bytes) :: rest =>
    match (m.types[type]?).bind fun t => m.body bounds t bytes with
    | some b => (m.bodiesFrom bounds (i + 1) rest).map (b :: ·)
    | none => .error (.unsound i)

end Module

/-- The program that bytes describe. -/
def Program.load (bounds : Bounds) (bytes : Bytes) : Except LoadFault Program :=
  match Module.read bytes with
  | none => .error .malformed
  | some m =>
    if m.isValid bounds then
      let imported := m.functionCount - m.functions.length
      (m.bodiesFrom bounds imported (m.functions.zip m.code)).map (⟨m, ·⟩)
    else .error .malformed

end SnippetService.Wasm
