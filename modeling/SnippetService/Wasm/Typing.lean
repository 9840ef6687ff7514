import SnippetService.Wasm.Module
/-!
The typing of function bodies. Every open region has operands of its own; behind a jump nothing is known
of them, and any type may be taken from what is not known.
-/
namespace SnippetService.Wasm

/-- A type, or any type. -/
abbrev Operand := Option ValueType

inductive RegionKind where
  | block | loop | ifThen | otherwise
  deriving DecidableEq

/-- An open region. -/
structure Region where
  kind : RegionKind
  params : List ValueType
  results : List ValueType
  /-- The operands of the region, the latest first. -/
  operands : List Operand
  /-- Whether the place is behind a jump. -/
  unknownBelow : Bool := false

/-- What a jump to a region carries. -/
def Region.labelTypes (r : Region) : List ValueType :=
  match r.kind with
  | .loop => r.params
  | _ => r.results

/-- What a body may refer to. -/
structure Scope where
  module : Module
  results : List ValueType
  locals : List ValueType
  /-- The functions that the module declares for references. -/
  declared : List Nat

/-- Typing works on the open regions, the innermost first. -/
abbrev Typing := StateT (List Region) Option

namespace Typing

/-- What has to be there. -/
def require {α : Type} (a : Option α) : Typing α := a

def ensure (b : Bool) : Typing Unit := if b then return else failure

def pop : Typing Operand := do
  match ← get with
  | [] => failure
  | r :: rs =>
    match r.operands with
    | t :: ts =>
      set ({ r with operands := ts } :: rs)
      return t
    | [] => if r.unknownBelow then return none else failure

def push (t : Operand) : Typing Unit := do
  match ← get with
  | [] => failure
  | r :: rs => set ({ r with operands := t :: r.operands } :: rs)

def popType (t : ValueType) : Typing Unit := do
  match ← pop with
  | none => return
  | some found => ensure (found == t)

def pushType (t : ValueType) : Typing Unit := push (some t)

def popTypes (ts : List ValueType) : Typing Unit := ts.reverse.forM popType

def pushTypes (ts : List ValueType) : Typing Unit := ts.forM pushType

/-- An operator that takes and leaves fixed types. -/
def arrow (params results : List ValueType) : Typing Unit := do
  popTypes params
  pushTypes results

/-- Nothing is known behind a jump. -/
def jump : Typing Unit := do
  match ← get with
  | [] => failure
  | r :: rs => set ({ r with operands := [], unknownBelow := true } :: rs)

def openRegion (kind : RegionKind) (t : FunctionType) : Typing Unit := do
  popTypes t.params
  modify (⟨kind, t.params, t.results, t.params.reverse.map some, false⟩ :: ·)

/-- Leave a region, which must hold its results and no more. -/
def closeRegion : Typing Region := do
  match ← get with
  | [] => failure
  | r :: _ =>
    popTypes r.results
    match ← get with
    | [] => failure
    | r' :: rs =>
      ensure r'.operands.isEmpty
      set rs
      return r

/-- The types of a label. -/
def label (i : Nat) : Typing (List ValueType) := do
  let rs ← get
  return (← require rs[i]?).labelTypes

/-- Check a jump that need not be taken. -/
def mayJump (ts : List ValueType) : Typing Unit := do
  let before ← get
  popTypes ts
  set before

end Typing

namespace RegionType

/-- What a region takes and leaves, in a module. -/
def resolve (m : Module) : RegionType → Option FunctionType
  | empty => some ⟨[], []⟩
  | value t => some ⟨[], [t]⟩
  | indexed i => m.types[i]?

end RegionType

namespace Conversion

/-- The type that is converted. -/
def source : Conversion → ValueType
  | wrap => .i64
  | widen _ => .i32
  | truncate _ source _ _ => .float source
  | convert _ source _ => .int source
  | demote => .f64
  | promote => .f32
  | floatBits w => .float w
  | ofBits w => .int w

/-- The type that it is converted to. -/
def target : Conversion → ValueType
  | wrap => .i32
  | widen _ => .i64
  | truncate target _ _ _ => .int target
  | convert target _ _ => .float target
  | demote => .f32
  | promote => .f64
  | floatBits w => .int w
  | ofBits w => .float w

end Conversion

namespace Op

open Typing

/-- The types that an operator takes and leaves, if they are the same everywhere. -/
def fixedTypes : Op → Option (List ValueType × List ValueType)
  | nop => some ([], [])
  | i32Const _ => some ([], [.i32])
  | i64Const _ => some ([], [.i64])
  | f32Const _ => some ([], [.f32])
  | f64Const _ => some ([], [.f64])
  | refNull t => some ([], [.ref t])
  | intEqz w => some ([.int w], [.i32])
  | intUnary w _ => some ([.int w], [.int w])
  | intBinary w _ => some ([.int w, .int w], [.int w])
  | intCompare w _ => some ([.int w, .int w], [.i32])
  | floatUnary w _ => some ([.float w], [.float w])
  | floatBinary w _ => some ([.float w, .float w], [.float w])
  | floatCompare w _ => some ([.float w, .float w], [.i32])
  | convert c => some ([c.source], [c.target])
  | _ => none

/-- Check an access to memory, which may not promise more than its natural alignment. -/
def checkAccess (s : Scope) (layout : Layout) (a : Access) : Typing Unit :=
  ensure (a.memory < s.module.memoryTypes.length && Nat.pow 2 a.alignment ≤ layout.bytes)

/-- A call through a table. -/
def indirect (s : Scope) (type table : Nat) : Typing FunctionType := do
  let t ← require s.module.tableTypes[table]?
  ensure (t.element == .function)
  popType .i32
  require s.module.types[type]?

/-- Check the operators that look at tables, memories and segments. -/
def checkStorage (s : Scope) : Op → Typing Unit
  | tableGet i => do
    let t ← require s.module.tableTypes[i]?
    arrow [.i32] [.ref t.element]
  | tableSet i => do
    let t ← require s.module.tableTypes[i]?
    arrow [.i32, .ref t.element] []
  | tableSize i => do
    let _ ← require s.module.tableTypes[i]?
    pushType .i32
  | tableGrow i => do
    let t ← require s.module.tableTypes[i]?
    arrow [.ref t.element, .i32] [.i32]
  | tableFill i => do
    let t ← require s.module.tableTypes[i]?
    arrow [.i32, .ref t.element, .i32] []
  | tableCopy target source => do
    let t ← require s.module.tableTypes[target]?
    let u ← require s.module.tableTypes[source]?
    ensure (t.element == u.element)
    arrow [.i32, .i32, .i32] []
  | tableInit table segment => do
    let t ← require s.module.tableTypes[table]?
    let e ← require s.module.elements[segment]?
    ensure (t.element == e.type)
    arrow [.i32, .i32, .i32] []
  | elemDrop segment => ensure (segment < s.module.elements.length)
  | load layout a => do
    checkAccess s layout a
    arrow [.i32] [layout.value]
  | store layout a => do
    checkAccess s layout a
    arrow [.i32, layout.value] []
  | memorySize i => do
    ensure (i < s.module.memoryTypes.length)
    pushType .i32
  | memoryGrow i => do
    ensure (i < s.module.memoryTypes.length)
    arrow [.i32] [.i32]
  | memoryFill i => do
    ensure (i < s.module.memoryTypes.length)
    arrow [.i32, .i32, .i32] []
  | memoryCopy target source => do
    ensure (target < s.module.memoryTypes.length && source < s.module.memoryTypes.length)
    arrow [.i32, .i32, .i32] []
  | memoryInit memory segment => do
    ensure (memory < s.module.memoryTypes.length && segment < s.module.dataCount.getD 0)
    arrow [.i32, .i32, .i32] []
  | dataDrop segment => ensure (segment < s.module.dataCount.getD 0)
  | _ => failure

/-- Check an operator where it stands. -/
def check (s : Scope) (o : Op) : Typing Unit := do
  match o.fixedTypes with
  | some (params, results) => arrow params results
  | none =>
    match o with
    | unreachable => jump
    | block t => openRegion .block (← require (t.resolve s.module))
    | loop t => openRegion .loop (← require (t.resolve s.module))
    | ifThen t =>
      popType .i32
      openRegion .ifThen (← require (t.resolve s.module))
    | otherwise =>
      let r ← closeRegion
      ensure (r.kind == .ifThen)
      modify (⟨.otherwise, r.params, r.results, r.params.reverse.map some, false⟩ :: ·)
    | endRegion =>
      let r ← closeRegion
      -- Without an alternative, what a condition takes has to be what it leaves.
      ensure (r.kind != .ifThen || r.params == r.results)
      if (← get).isEmpty then return else pushTypes r.results
    | br i =>
      popTypes (← label i)
      jump
    | brIf i =>
      popType .i32
      let ts ← label i
      popTypes ts
      pushTypes ts
    | brTable is fallback =>
      popType .i32
      let ts ← label fallback
      for i in is do
        let us ← label i
        ensure (us.length == ts.length)
        mayJump us
      popTypes ts
      jump
    | ret =>
      popTypes s.results
      jump
    | call f =>
      let t ← require (s.module.functionType? f)
      arrow t.params t.results
    | callIndirect type table =>
      let t ← indirect s type table
      arrow t.params t.results
    | returnCall f =>
      let t ← require (s.module.functionType? f)
      ensure (t.results == s.results)
      popTypes t.params
      jump
    | returnCallIndirect type table =>
      let t ← indirect s type table
      ensure (t.results == s.results)
      popTypes t.params
      jump
    | drop =>
      let _ ← pop
      return
    | select (some t) => arrow [t, t, .i32] [t]
    | select none =>
      popType .i32
      let a ← pop
      let b ← pop
      ensure ((a.map ValueType.isNumeric).getD true && (b.map ValueType.isNumeric).getD true)
      ensure (a.isNone || b.isNone || a == b)
      push (a.or b)
    | localGet i => pushType (← require s.locals[i]?)
    | localSet i => popType (← require s.locals[i]?)
    | localTee i =>
      let t ← require s.locals[i]?
      arrow [t] [t]
    | globalGet i => pushType (← require s.module.globalTypes[i]?).value
    | globalSet i =>
      let t ← require s.module.globalTypes[i]?
      ensure t.isMutable
      popType t.value
    | refIsNull =>
      let t ← pop
      ensure (!(t.map ValueType.isNumeric).getD false)
      pushType .i32
    | refFunc f =>
      ensure (s.declared.contains f)
      pushType (.ref .function)
    | o => o.checkStorage s

end Op

/-- Check the operators of a body in turn. The region of the body closes with the last one. -/
def Scope.checkAll (s : Scope) : List Op → Typing Unit
  | [] => do Typing.ensure (← get).isEmpty
  | o :: os => do
    Typing.ensure !(← get).isEmpty
    o.check s
    s.checkAll os

/-- Whether the operators of a body fit together. -/
def Scope.accepts (s : Scope) (ops : List Op) : Bool :=
  (s.checkAll ops [⟨.block, [], s.results, [], false⟩]).isSome

end SnippetService.Wasm
