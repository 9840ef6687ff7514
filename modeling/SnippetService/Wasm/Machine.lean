import SnippetService.Execution.Failure
import SnippetService.Wasm.Integer
import SnippetService.Wasm.Memory
import SnippetService.Wasm.Program
import SnippetService.Wasm.Real
import SnippetService.Wasm.Value
/-!
The machine that runs function bodies. A frame holds the operators that are left, and one label for each
open region; each region has operands of its own, so that leaving it gives the operands below it back.
-/
namespace SnippetService.Wasm

/-- The functions that the host lends to modules. -/
inductive HostFunction where
  /-- Print a number on a line of its own. -/
  | print
  /-- Print where a text lies. -/
  | printText
  /-- Do nothing. -/
  | stub
  deriving DecidableEq

/-- A function of an instance. -/
inductive Callee where
  | host (h : HostFunction) (type : FunctionType)
  | code (b : Body)

def Callee.type : Callee → FunctionType
  | host _ type => type
  | code b => b.type

/-- An open region at run time. -/
structure Label where
  /-- The number of values that a jump carries. -/
  arity : Nat
  /-- The operands below the region. -/
  below : List Value
  /-- The operators from the start of a loop. -/
  again : Option (List Op)

structure Frame where
  code : List Op
  operands : List Value
  labels : List Label
  locals : Array Value
  /-- The number of results. -/
  arity : Nat

/-- What code meets outside of its module. -/
structure Surroundings where
  bounds : Bounds
  /-- The text by which the host shows a function of an instance. -/
  reference : Nat → String
  /-- The steps that are left to code that no timer stops, until the process itself is ended. -/
  patience : Nat

/-- What an instance is made of and never changes. -/
structure Fixture where
  surroundings : Surroundings
  types : Array FunctionType
  functions : Array Callee

/-- The state of an instance while it runs. -/
structure Machine where
  memories : Array Memory := #[]
  tables : Array (Elements Value) := #[]
  globals : Array Value := #[]
  /-- Element segments; one that was dropped is empty. -/
  elements : Array (List Value) := #[]
  /-- Data segments; one that was dropped is empty. -/
  data : Array Bytes := #[]
  /-- The output lines, the latest first. -/
  lines : List Text := []
  frame : Frame := ⟨[], [], [], #[], 0⟩
  /-- The frames that wait for a call to return. -/
  callers : List Frame := []
  /-- The number of frames that wait. -/
  depth : Nat := 0

/-- Why a run ends early. -/
inductive Halt where
  | trap (t : Trap)
  /-- The host cannot go on. -/
  | failed (f : Failure)
  /-- The code does not fit its types. It does not happen to checked code. -/
  | stuck

/-- A step of the machine. -/
abbrev Act := EStateM Halt Machine

namespace Act

variable {α : Type}

def trap (t : Trap) : Act α := throw (.trap t)

def stuck : Act α := throw .stuck

/-- What has to be there. -/
def the (a : Option α) : Act α :=
  match a with
  | some a => return a
  | none => stuck

def lift (r : Except Trap α) : Act α :=
  match r with
  | .ok a => return a
  | .error t => trap t

def modifyFrame (f : Frame → Frame) : Act Unit :=
  modify fun m => { m with frame := f m.frame }

def push (v : Value) : Act Unit :=
  modifyFrame fun f => { f with operands := v :: f.operands }

def pop : Act Value := do
  match (← get).frame.operands with
  | v :: rest =>
    modifyFrame fun f => { f with operands := rest }
    return v
  | [] => stuck

/-- The latest operands, the earliest of them first. -/
def popMany (count : Nat) : Act (List Value) := do
  let operands := (← get).frame.operands
  modifyFrame fun f => { f with operands := f.operands.drop count }
  return (operands.take count).reverse

def pushMany (vs : List Value) : Act Unit :=
  modifyFrame fun f => { f with operands := vs.reverse ++ f.operands }

def pop32 : Act (BitVec 32) := do
  match ← pop with
  | .i32 n => return n
  | _ => stuck

/-- An operand that counts or points. -/
def popNat : Act Nat := return (← pop32).toNat

/-- An integer operand of a width. -/
def popInt : (w : Width) → Act (BitVec w.bits)
  | .w32 => pop32
  | .w64 => do
    match ← pop with
    | .i64 n => return n
    | _ => stuck

/-- The bits of a float operand of a width. -/
def popFloat : (w : Width) → Act (BitVec w.bits)
  | .w32 => do
    match ← pop with
    | .f32 bits => return bits
    | _ => stuck
  | .w64 => do
    match ← pop with
    | .f64 bits => return bits
    | _ => stuck

end Act

/-- The operators behind the end of the region that is open, and of `outer` more around it. -/
def afterRegion : Nat → List Op → List Op
  | _, [] => []
  | outer, .block _ :: rest => afterRegion (outer + 1) rest
  | outer, .loop _ :: rest => afterRegion (outer + 1) rest
  | outer, .ifThen _ :: rest => afterRegion (outer + 1) rest
  | 0, .endRegion :: rest => rest
  | outer + 1, .endRegion :: rest => afterRegion outer rest
  | outer, _ :: rest => afterRegion outer rest

/-- The operators of the alternative of a condition that has just been opened, or its end if it has none;
`inner` is the number of regions that are open in it. -/
def alternative : Nat → List Op → List Op
  | _, [] => []
  | inner, .block _ :: rest => alternative (inner + 1) rest
  | inner, .loop _ :: rest => alternative (inner + 1) rest
  | inner, .ifThen _ :: rest => alternative (inner + 1) rest
  | 0, .otherwise :: rest => rest
  | 0, .endRegion :: rest => .endRegion :: rest
  | inner + 1, .endRegion :: rest => alternative inner rest
  | inner, _ :: rest => alternative inner rest

namespace Act

/-- Open a region, which takes its operands with it. -/
def openRegion (params arity : Nat) (again : Option (List Op)) : Act Unit :=
  modifyFrame fun f => { f with
    operands := f.operands.take params
    labels := ⟨arity, f.operands.drop params, again⟩ :: f.labels }

/-- The operators that are left. -/
def code : Act (List Op) := return (← get).frame.code

def setCode (ops : List Op) : Act Unit := modifyFrame fun f => { f with code := ops }

/-- Return from the function. The first function of a run returns to nothing. -/
def leave : Act Unit := do
  let m ← get
  let results := m.frame.operands.take m.frame.arity
  match m.callers with
  | caller :: rest =>
    set { m with
      frame := { caller with operands := results ++ caller.operands }
      callers := rest
      depth := m.depth - 1 }
  | [] => set { m with frame := { m.frame with code := [], operands := results, labels := [] } }

/-- Jump to a label. A jump past all labels returns. -/
def jump (i : Nat) : Act Unit := do
  let f := (← get).frame
  match f.labels.drop i with
  | [] => leave
  | l :: outer =>
    let carried := f.operands.take l.arity
    match l.again with
    | some ops => modifyFrame fun f =>
        { f with code := ops, operands := carried, labels := l :: outer }
    | none => modifyFrame fun f => { f with
        code := afterRegion i f.code, operands := carried ++ l.below, labels := outer }

/-- Close a region, or return if it is the body. -/
def close : Act Unit := do
  let f := (← get).frame
  match f.labels with
  | [] => leave
  | l :: outer =>
    modifyFrame fun f => { f with operands := f.operands ++ l.below, labels := outer }

end Act

namespace Body

/-- The frame in which a body starts. -/
def frame (b : Body) (args : List Value) : Frame :=
  ⟨b.ops, [], [], (args ++ b.locals.map Value.default).toArray, b.type.results.length⟩

end Body

end SnippetService.Wasm
