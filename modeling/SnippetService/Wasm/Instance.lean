import SnippetService.Wasm.Step
/-!
Instances of programs. The host lends a few functions; whatever else a module wants to import is refused.
-/
namespace SnippetService.Wasm

def unsupportedImportHint : String :=
  "Only env.print, env.print_str and a minimal WASI stub surface are provided."

namespace HostFunction

/-- The function that the host lends under a name of a module. -/
def named? (module name : String) : Option HostFunction :=
  if module == "env" then
    if name == "print" then some print
    else if name == "print_str" then some printText
    else none
  else if module == "wasi_snapshot_preview1" then
    if name == "fd_write" || name == "fd_close" || name == "fd_seek" || name == "proc_exit" then
      some stub
    else none
  else none

end HostFunction

/-- The function that is imported, if the host has it. -/
def Import.callee (types : List FunctionType) (i : Import) : Except Failure Callee :=
  match HostFunction.named? i.module i.name, i.kind with
  | some h, .function t =>
    match types[t]? with
    | some type => .ok (.host h type)
    | none => .error (.unexpected (.other "IndexError") "")
  | _, _ =>
    .error (.classified .load ("Unsupported import " ++ i.module ++ "." ++ i.name)
      (some unsupportedImportHint))

/-- What the host lends to a module. -/
def Module.hostFunctions (m : Module) : Except Failure (List Callee) :=
  m.imports.mapM fun i => i.callee m.types

/-- A program whose imports have been found. -/
structure Linked where
  program : Program
  fixture : Fixture

def Program.link (p : Program) (surroundings : Surroundings) (host : List Callee) : Linked :=
  ⟨p, surroundings, p.module.types.toArray, (host ++ p.bodies.map Callee.code).toArray⟩

/-- A memory of a type; the engine may limit the bytes of each memory. -/
def Memory.ofType (limit : Option Nat) (t : MemoryType) : Except String Memory :=
  let declared := t.greatest.getD pageLimit
  let greatest := match limit with
    | some bytes => min declared (bytes / pageSize)
    | none => declared
  if limit.any (· < t.least * pageSize) then
    .error ("memory minimum size of " ++ toString t.least ++ " pages exceeds memory limits")
  else .ok { pages := t.least, greatest := greatest, declared := declared }

def Elements.ofType (bounds : Bounds) (t : TableType) : Elements Value :=
  ⟨Array.replicate t.limits.least (.null t.element),
    (t.limits.greatest.map (min bounds.elements)).getD bounds.elements⟩

namespace Act

/-- The value of a constant expression. -/
def constant : ConstExpr → Act Value
  | [] => pop
  | o :: rest => do
    match o with
    | .globalGet _ | .refNull _ | .refFunc _ => o.execVariable
    | _ => o.execNumeric
    constant rest

def constantNat (e : ConstExpr) : Act Nat := do
  match ← constant e with
  | .i32 n => return n.toNat
  | _ => stuck

/-- Give the globals their values, one after another. -/
def initGlobals : List Global → Act Unit
  | [] => return
  | g :: rest => do
    let v ← constant g.init
    modify fun m => { m with globals := m.globals.push v }
    initGlobals rest

/-- Evaluate the items of the element segments. -/
def evalElements (segments : List ElementSegment) : Act (List (List Value)) :=
  segments.mapM fun s => s.items.mapM constant

/-- Copy the element segments that have a place into their tables. -/
def placeElements : Nat → List ElementSegment → Act Unit
  | _, [] => return
  | i, s :: rest => do
    match s.mode with
    | .passive => pure ()
    | .declarative => (Op.elemDrop i).execTable
    | .active table offset =>
      let start ← constantNat offset
      let items ← the (← get).elements[i]?
      let t ← the (← get).tables[table]?
      if t.holds start items.length then setTable table (t.write start items)
      else trap .tableOutOfBounds
      (Op.elemDrop i).execTable
    placeElements (i + 1) rest

/-- Copy the data segments that have a place into their memories. -/
def placeData : Nat → List DataSegment → Act Unit
  | _, [] => return
  | i, s :: rest => do
    match s.mode with
    | .active memory offset =>
      let start ← constantNat offset
      let m ← Act.memory memory
      if m.holds start s.content.length then setMemory memory (m.write start s.content)
      else trap .memoryOutOfBounds
      (Op.dataDrop i).execMemory
    | _ => pure ()
    placeData (i + 1) rest

/-- Give an instance what its module says. -/
def setUp (m : Module) : Act Unit := do
  initGlobals m.globals
  let elements ← evalElements m.elements
  modify fun s => { s with elements := elements.toArray, data := (m.data.map (·.content)).toArray }
  placeElements 0 m.elements
  placeData 0 m.data

end Act

end SnippetService.Wasm
