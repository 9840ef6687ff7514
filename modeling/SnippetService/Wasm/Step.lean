import SnippetService.Wasm.HostCall
/-!
What each operator does, and runs of the machine.
-/
namespace SnippetService.Wasm

namespace Act

/-- Call a function on parameters that have been taken from the operands. -/
def enter (env : Fixture) (c : Callee) (params : List Value) : Act Unit := do
  match c with
  | .host h type => pushMany (← h.call env type params)
  | .code b =>
    if env.surroundings.bounds.frames ≤ (← get).depth then trap .stackExhausted
    else modify fun m => { m with
      frame := b.frame params, callers := m.frame :: m.callers, depth := m.depth + 1 }

def call (env : Fixture) (c : Callee) : Act Unit := do enter env c (← popMany c.type.params.length)

/-- Call a function in the place of the one that is running. -/
def callLast (env : Fixture) (c : Callee) : Act Unit := do
  let params ← popMany c.type.params.length
  match c with
  | .host h type =>
    pushMany (← h.call env type params)
    leave
  | .code b => modify fun m => { m with frame := b.frame params }

/-- The function that an element of a table refers to; it has to have the type that is expected. -/
def elementCallee (env : Fixture) (type table : Nat) : Act Callee := do
  let i ← popNat
  let t ← the (← get).tables[table]?
  match t.items[i]? with
  | none => trap .tableOutOfBounds
  | some (.func none) => trap .nullElement
  | some (.func (some f)) =>
    let c ← the env.functions[f]?
    if c.type == (← the env.types[type]?) then return c else trap .signatureMismatch
  | some _ => stuck

/-- The number of parameters and of results of a region. -/
def regionArity (env : Fixture) (t : RegionType) : Act (Nat × Nat) := do
  match t with
  | .empty => return (0, 0)
  | .value _ => return (0, 1)
  | .indexed i =>
    let t ← the env.types[i]?
    return (t.params.length, t.results.length)

def memory (i : Nat) : Act Memory := do the (← get).memories[i]?

def setMemory (i : Nat) (m : Memory) : Act Unit :=
  modify fun s => { s with memories := s.memories.setIfInBounds i m }

def table (i : Nat) : Act (Elements Value) := do the (← get).tables[i]?

def setTable (i : Nat) (t : Elements Value) : Act Unit :=
  modify fun s => { s with tables := s.tables.setIfInBounds i t }

end Act

/-- The greatest reach of an access that is left to the bounds of memory itself; a longer one is checked
beforehand. -/
def guardedReach : Nat := 0x2000001

/-- What an access outside of memory is answered with. Only an access that really went there has an
address: the first byte that is missing. -/
def outside (m : Memory) (a : Access) (address count : Nat) : Trap :=
  if guardedReach < a.offset + count || m.declared * pageSize < a.offset + count then
    .memoryOutOfBounds
  else .memoryFault (max address m.size) m.size

namespace Layout

/-- The value of a number that was loaded. -/
def loaded (l : Layout) (n : Nat) : Value :=
  let extended (w : Nat) : BitVec w :=
    match l.extension with
    | .unsigned => .ofNat w n
    | .signed => (BitVec.ofNat (8 * l.bytes) n).signExtend w
  match l.value with
  | .int .w32 => .i32 (extended 32)
  | .int .w64 => .i64 (extended 64)
  | .float .w32 => .f32 (.ofNat 32 n)
  | .float .w64 => .f64 (.ofNat 64 n)
  | .ref t => .null t

end Layout

/-- The bits of a number. -/
def Value.bits : Value → Nat
  | i32 n => n.toNat
  | i64 n => n.toNat
  | f32 n => n.toNat
  | f64 n => n.toNat
  | func _ | external _ => 0

/-- What a growth that is not possible answers. -/
def growthFailed : Value := .i32 (-1)

namespace Conversion

def exec (c : Conversion) : Act Unit := do
  match c with
  | wrap => Act.push (.i32 ((← Act.popInt .w64).setWidth 32))
  | widen .signed => Act.push (.i64 ((← Act.pop32).signExtend 64))
  | widen .unsigned => Act.push (.i64 ((← Act.pop32).setWidth 64))
  | truncate target source s false =>
    Act.push (.int target (← Act.lift (Wasm.truncate target source s (← Act.popFloat source))))
  | truncate target source s true =>
    Act.push (.int target (truncateSaturating target source s (← Act.popFloat source)))
  | convert target source s =>
    Act.push (.float target (.ofNat _ (target.format.ofInt (intValue s (← Act.popInt source)))))
  | demote =>
    let a ← Act.popFloat .w64
    Act.push (.f32 (.ofNat 32 (BinaryFormat.double.convert .single a.toNat)))
  | promote =>
    let a ← Act.popFloat .w32
    Act.push (.f64 (.ofNat 64 (BinaryFormat.single.convert .double a.toNat)))
  | floatBits w => Act.push (.int w (← Act.popFloat w))
  | ofBits w => Act.push (.float w (← Act.popInt w))

end Conversion

namespace Op

open Act

/-- The operators on numbers alone. -/
def execNumeric : Op → Act Unit
  | i32Const n => push (.i32 n)
  | i64Const n => push (.i64 n)
  | f32Const bits => push (.f32 bits)
  | f64Const bits => push (.f64 bits)
  | intEqz w => do push (.i32 (testBit ((← popInt w) == 0)))
  | intUnary w o => do push (.int w (o.apply (← popInt w)))
  | intBinary w o => do
    let b ← popInt w
    let a ← popInt w
    push (.int w (← lift (o.apply a b)))
  | intCompare w o => do
    let b ← popInt w
    let a ← popInt w
    push (.i32 (testBit (o.apply a b)))
  | floatUnary w o => do push (.float w (o.apply w (← popFloat w)))
  | floatBinary w o => do
    let b ← popFloat w
    let a ← popFloat w
    push (.float w (o.apply w a b))
  | floatCompare w o => do
    let b ← popFloat w
    let a ← popFloat w
    push (.i32 (testBit (o.apply w a b)))
  | convert c => c.exec
  | _ => stuck

/-- The operators on tables and element segments. -/
def execTable : Op → Act Unit
  | tableGet i => do
    let index ← popNat
    match (← table i).items[index]? with
    | some v => push v
    | none => trap .tableOutOfBounds
  | tableSet i => do
    let v ← pop
    let index ← popNat
    let t ← table i
    if t.holds index 1 then setTable i (t.write index [v]) else trap .tableOutOfBounds
  | tableSize i => do push (.i32 (.ofNat 32 (← table i).items.size))
  | tableGrow i => do
    let delta ← popNat
    let v ← pop
    let t ← table i
    match t.grow? v delta with
    | some grown =>
      setTable i grown
      push (.i32 (.ofNat 32 t.items.size))
    | none => push growthFailed
  | tableFill i => do
    let count ← popNat
    let v ← pop
    let index ← popNat
    let t ← table i
    if t.holds index count then setTable i (t.write index (List.replicate count v))
    else trap .tableOutOfBounds
  | tableCopy target source => do
    let count ← popNat
    let start ← popNat
    let index ← popNat
    let t ← table target
    let u ← table source
    if t.holds index count && u.holds start count then
      setTable target (t.write index (u.items.extract start (start + count)).toList)
    else trap .tableOutOfBounds
  | tableInit i segment => do
    let count ← popNat
    let start ← popNat
    let index ← popNat
    let t ← table i
    let items ← the (← get).elements[segment]?
    if t.holds index count && start + count ≤ items.length then
      setTable i (t.write index ((items.drop start).take count))
    else trap .tableOutOfBounds
  | elemDrop segment =>
    modify fun s => { s with elements := s.elements.setIfInBounds segment [] }
  | _ => stuck

/-- The operators on memories and data segments. -/
def execMemory : Op → Act Unit
  | load layout a => do
    let address := (← popNat) + a.offset
    let m ← memory a.memory
    if m.holds address layout.bytes then push (layout.loaded (m.number address layout.bytes))
    else trap (outside m a address layout.bytes)
  | store layout a => do
    let v ← pop
    let address := (← popNat) + a.offset
    let m ← memory a.memory
    if m.holds address layout.bytes then
      setMemory a.memory (m.writeNumber address v.bits layout.bytes)
    else trap (outside m a address layout.bytes)
  | memorySize i => do push (.i32 (.ofNat 32 (← memory i).pages))
  | memoryGrow i => do
    let delta ← popNat
    let m ← memory i
    match m.grow? delta with
    | some grown =>
      setMemory i grown
      push (.i32 (.ofNat 32 m.pages))
    | none => push growthFailed
  | memoryFill i => do
    let count ← popNat
    let b ← pop32
    let address ← popNat
    let m ← memory i
    if m.holds address count then setMemory i (m.fill address (UInt8.ofNat b.toNat) count)
    else trap .memoryOutOfBounds
  | memoryCopy target source => do
    let count ← popNat
    let start ← popNat
    let address ← popNat
    let m ← memory target
    let n ← memory source
    if m.holds address count && n.holds start count then
      setMemory target (m.write address (n.bytes start count))
    else trap .memoryOutOfBounds
  | memoryInit i segment => do
    let count ← popNat
    let start ← popNat
    let address ← popNat
    let m ← memory i
    let content ← the (← get).data[segment]?
    if m.holds address count && start + count ≤ content.length then
      setMemory i (m.write address ((content.drop start).take count))
    else trap .memoryOutOfBounds
  | dataDrop segment => modify fun s => { s with data := s.data.setIfInBounds segment [] }
  | _ => stuck

/-- The operators on locals, globals, operands and references. -/
def execVariable : Op → Act Unit
  | nop => return
  | drop => do
    let _ ← pop
    return
  | select _ => do
    let c ← pop32
    let b ← pop
    let a ← pop
    push (if c == 0 then b else a)
  | localGet i => do push (← the (← get).frame.locals[i]?)
  | localSet i => do
    let v ← pop
    modifyFrame fun f => { f with locals := f.locals.setIfInBounds i v }
  | localTee i => do
    let v ← pop
    modifyFrame fun f => { f with locals := f.locals.setIfInBounds i v }
    push v
  | globalGet i => do push (← the (← get).globals[i]?)
  | globalSet i => do
    let v ← pop
    modify fun s => { s with globals := s.globals.setIfInBounds i v }
  | refNull t => push (.null t)
  | refIsNull => do
    match ← pop with
    | .func r => push (.i32 (testBit r.isNone))
    | .external r => push (.i32 (testBit r.isNone))
    | _ => stuck
  | refFunc f => push (.func (some f))
  | _ => stuck

/-- The operators that move control. -/
def execControl (env : Fixture) : Op → Act Unit
  | unreachable => trap .unreachableReached
  | block t => do
    let (params, results) ← regionArity env t
    openRegion params results none
  | loop t => do
    let (params, _) ← regionArity env t
    openRegion params params (some (← code))
  | ifThen t => do
    let c ← pop32
    let (params, results) ← regionArity env t
    if c == 0 then setCode (alternative 0 (← code))
    openRegion params results none
  | otherwise => do
    setCode (afterRegion 0 (← code))
    close
  | endRegion => close
  | br i => jump i
  | brIf i => do
    let c ← pop32
    if c == 0 then return else jump i
  | brTable is fallback => do
    let i ← popNat
    jump (is.getD i fallback)
  | ret => leave
  | Op.call f => do Act.call env (← the env.functions[f]?)
  | callIndirect type table => do Act.call env (← elementCallee env type table)
  | returnCall f => do callLast env (← the env.functions[f]?)
  | returnCallIndirect type table => do callLast env (← elementCallee env type table)
  | _ => stuck

/-- What an operator does. -/
def exec (env : Fixture) (o : Op) : Act Unit :=
  match o with
  | i32Const _ | i64Const _ | f32Const _ | f64Const _ | intEqz _ | intUnary _ _ | intBinary _ _
  | intCompare _ _ | floatUnary _ _ | floatBinary _ _ | floatCompare _ _ | convert _ =>
    o.execNumeric
  | tableGet _ | tableSet _ | tableSize _ | tableGrow _ | tableFill _ | tableCopy _ _
  | tableInit _ _ | elemDrop _ => o.execTable
  | load _ _ | store _ _ | memorySize _ | memoryGrow _ | memoryFill _ | memoryCopy _ _
  | memoryInit _ _ | dataDrop _ => o.execMemory
  | nop | drop | select _ | localGet _ | localSet _ | localTee _ | globalGet _ | globalSet _
  | refNull _ | refIsNull | refFunc _ => o.execVariable
  | _ => o.execControl env

end Op

/-- Run until the first function has returned, for at most a number of steps. -/
def Act.run (env : Fixture) : Nat → Act Unit
  | 0 => Act.trap .interrupted
  | fuel + 1 => do
    match ← Act.code with
    | [] => return
    | o :: rest =>
      Act.setCode rest
      o.exec env
      Act.run env fuel

/-- Call a function from outside. Host functions take no steps. -/
def Act.invoke (env : Fixture) (fuel : Nat) (c : Callee) (args : List Value) : Act (List Value) :=
  match c with
  | .host h type => h.call env type args
  | .code b => do
    modify fun m => { m with frame := b.frame args, callers := [], depth := 0 }
    Act.run env fuel
    return (← get).frame.operands.reverse

end SnippetService.Wasm
