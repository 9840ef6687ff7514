import SnippetService.Proofs.Execution.Answerable
import SnippetService.Wasm.Engine
/-!
How the machine conducts itself, whatever code it runs. Every act is composed of a few kinds of steps: operators,
runs of any length and the making of instances. So what these steps have in common holds of all acts. Where the host
cannot go on it says so by a failure of no class, and what was printed earlier makes no difference: it stays where it
is, below the lines that are printed now.
-/
namespace SnippetService.Wasm

/-- A halt that no class of failures was foreseen for: a trap, or such a failure of the host. -/
def Halt.isUnforeseen : Halt → Bool
  | .failed f => f.isUnforeseen
  | _ => true

/-- The machine with other output lines. -/
def Machine.withLines (m : Machine) (lines : List Text) : Machine := { m with lines := lines }

/-- The machine as it would be had lines been printed earlier. -/
def Machine.following (m : Machine) (earlier : List Text) : Machine :=
  m.withLines (m.lines ++ earlier)

@[simp]
theorem Machine.withLines_lines (m : Machine) (lines : List Text) :
    (m.withLines lines).lines = lines := rfl

/-- The machine after the function that is running has returned. -/
def Machine.returned (m : Machine) : Machine :=
  let results := m.frame.operands.take m.frame.arity
  match m.callers with
  | caller :: rest => { m with
      frame := { caller with operands := results ++ caller.operands }
      callers := rest
      depth := m.depth - 1 }
  | [] => { m with frame := { m.frame with code := [], operands := results, labels := [] } }

namespace Act

variable {α β : Type}

/-- What an act comes to, and the machine that it leaves. -/
def ending (act : Act α) (m : Machine) : Except Halt α × Machine :=
  match act m with
  | .ok a n => (.ok a, n)
  | .error h n => (.error h, n)

@[simp]
theorem ending_pure (a : α) (m : Machine) : ending (pure a : Act α) m = (.ok a, m) := rfl

@[simp]
theorem ending_bind (act : Act α) (next : α → Act β) (m : Machine) :
    ending (act >>= next) m =
      match ending act m with
      | (.ok a, n) => ending (next a) n
      | (.error h, n) => (.error h, n) := by
  change ending (EStateM.bind act next) m = _
  unfold ending EStateM.bind
  cases act m <;> rfl

@[simp]
theorem ending_modify (f : Machine → Machine) (m : Machine) : ending (modify f) m = (.ok (), f m) := rfl

theorem ending_get_bind (next : Machine → Act α) (m : Machine) :
    ending (get >>= next) m = ending (next m) m := rfl

/-- How the acts of the machine are made. They look at the machine but not at the lines that were printed, and they
change it without touching these lines, except that the host may print one more, of characters. They end early only by
halts that no class of failures was foreseen for. -/
inductive Composed : {α : Type} → Act α → Prop
  | pure {α : Type} (a : α) : Composed (Pure.pure a : Act α)
  | bind {α β : Type} {act : Act α} {next : α → Act β} (hAct : Composed act)
      (hNext : ∀ a, Composed (next a)) : Composed (act >>= next)
  | halt {α : Type} {h : Halt} (hUnforeseen : h.isUnforeseen = true) : Composed (throw h : Act α)
  | read {α : Type} {next : Machine → Act α} (hBlind : ∀ m lines, next (m.withLines lines) = next m)
      (hNext : ∀ m, Composed (next m)) : Composed (get >>= next)
  | change {f : Machine → Machine} (hApart : ∀ m lines, f (m.withLines lines) = (f m).withLines lines) :
      Composed (modify f)
  | print {line : Text} (hPlain : line.isPlain = true) :
      Composed (modify fun m => { m with lines := line :: m.lines })

/-- Returning is one change of the machine, although it is written as a look and a replacement. -/
theorem leave_eq_modify : Act.leave = modify Machine.returned := by
  funext m
  rcases m with ⟨memories, tables, globals, elements, data, lines, frame, callers, depth⟩
  cases callers <;> rfl

/-- An end that no class of failures was foreseen for. -/
def IsUnforeseen (r : Except Halt α) : Prop := ∀ h, r = .error h → h.isUnforeseen = true

/-- An act that does the same whatever was printed before it. -/
def Steady (act : Act α) : Prop :=
  ∀ m earlier, act.ending (m.following earlier) =
    ((act.ending m).1, (act.ending m).2.following earlier)

namespace Composed

theorem trap (t : Trap) : Composed (Act.trap t : Act α) := halt rfl

theorem stuck : Composed (Act.stuck : Act α) := halt rfl

theorem the (a : Option α) : Composed (Act.the a) := by
  cases a with
  | some a => exact pure a
  | none => exact stuck

theorem lift (r : Except Trap α) : Composed (Act.lift r) := by
  cases r with
  | ok a => exact pure a
  | error t => exact trap t

theorem modifyFrame (f : Frame → Frame) : Composed (Act.modifyFrame f) :=
  change fun _ _ => rfl

theorem push (v : Value) : Composed (Act.push v) := modifyFrame _

theorem pop : Composed Act.pop := by
  refine read (fun _ _ => rfl) fun m => ?_
  split
  · exact (modifyFrame _).bind fun _ => pure _
  · exact stuck

theorem popMany (count : Nat) : Composed (Act.popMany count) :=
  read (fun _ _ => rfl) fun _ => (modifyFrame _).bind fun _ => pure _

theorem pushMany (vs : List Value) : Composed (Act.pushMany vs) := modifyFrame _

theorem pop32 : Composed Act.pop32 := by
  refine pop.bind fun v => ?_
  split
  · exact pure _
  · exact stuck

theorem popNat : Composed Act.popNat := pop32.bind fun _ => pure _

theorem popInt (w : Width) : Composed (Act.popInt w) := by
  cases w with
  | w32 => exact pop32
  | w64 =>
      refine pop.bind fun v => ?_
      cases v with
      | i64 n => exact pure _
      | _ => exact stuck

theorem popFloat (w : Width) : Composed (Act.popFloat w) := by
  cases w with
  | w32 =>
      refine pop.bind fun v => ?_
      cases v with
      | f32 bits => exact pure _
      | _ => exact stuck
  | w64 =>
      refine pop.bind fun v => ?_
      cases v with
      | f64 bits => exact pure _
      | _ => exact stuck

theorem openRegion (params arity : Nat) (again : Option (List Op)) :
    Composed (Act.openRegion params arity again) := modifyFrame _

theorem code : Composed Act.code := read (fun _ _ => rfl) fun _ => pure _

theorem setCode (ops : List Op) : Composed (Act.setCode ops) := modifyFrame _

/-- Returning puts another frame in place and leaves the rest. -/
theorem leave : Composed Act.leave := by
  rw [leave_eq_modify]
  refine change fun m lines => ?_
  unfold Machine.returned
  cases hCallers : m.callers <;> simp [Machine.withLines, hCallers]

theorem jump (i : Nat) : Composed (Act.jump i) := by
  refine read (fun _ _ => rfl) fun m => ?_
  dsimp only
  split
  · exact leave
  · split
    · exact modifyFrame _
    · exact modifyFrame _

theorem close : Composed Act.close := by
  refine read (fun _ _ => rfl) fun m => ?_
  dsimp only
  split
  · exact leave
  · exact modifyFrame _

theorem memory (i : Nat) : Composed (Act.memory i) := read (fun _ _ => rfl) fun _ => the _

theorem setMemory (i : Nat) (m : Memory) : Composed (Act.setMemory i m) :=
  change fun _ _ => rfl

theorem table (i : Nat) : Composed (Act.table i) := read (fun _ _ => rfl) fun _ => the _

theorem setTable (i : Nat) (t : Elements Value) : Composed (Act.setTable i t) :=
  change fun _ _ => rfl

theorem regionArity (env : Fixture) (t : RegionType) : Composed (Act.regionArity env t) := by
  cases t with
  | empty => exact pure _
  | value v => exact pure _
  | indexed i => exact (the _).bind fun _ => pure _

end Composed

end Act

theorem unforeseen_wholeText (n : Int) : Unforeseen (wholeText n) := by
  unfold wholeText
  split
  · exact rfl
  · exact trivial

/-- What is shown in characters elsewhere is so in output lines. -/
theorem plain_formatNumber {d : Datum} (hShown : d.display.isPlain = true) :
    Ends (fun f => f.isUnforeseen = true) (fun text => text.isPlain = true) (formatNumber d) := by
  cases d with
  | integer n =>
      change Ends _ _ (wholeText n)
      unfold wholeText
      split
      · rfl
      · exact Text.isPlain_ofString _
  | real x =>
      simp only [formatNumber]
      split
      · exact Text.isPlain_ofString _
      · split <;> exact Text.isPlain_ofString _
      · split <;> exact Text.isPlain_ofString _
  | null => exact Text.isPlain_ofString _
  | boolean b => cases b <;> exact Text.isPlain_ofString _
  | _ => exact hShown

/-- A value of the machine is shown in characters. -/
theorem Value.plain_display (reference : Nat → String) (v : Value) : (v.toDatum reference).display.isPlain = true := by
  cases v with
  | func index => cases index <;> exact Text.isPlain_ofString _
  | external n => cases n <;> exact Text.isPlain_ofString _
  | _ => exact Text.isPlain_ofString _

theorem unforeseen_formatNumber (d : Datum) : Unforeseen (formatNumber d) := by
  cases d with
  | integer n => exact unforeseen_wholeText n
  | real x =>
      simp only [formatNumber]
      split
      · exact trivial
      · exact trivial
      · split
        · exact trivial
        · exact trivial
  | _ => exact trivial

/-- What the host prints is made of characters. -/
theorem plain_line (h : HostFunction) (reference : Nat → String) (params : List Value) :
    Ends (fun f => f.isUnforeseen = true) (fun line => ∀ text, line = some text → text.isPlain = true)
      (h.line? (params.map (Value.toDatum reference))) := by
  have hShown (i : Nat) : ((params.map (Value.toDatum reference)).getD i (.integer 0)).display.isPlain = true := by
    rw [List.getD_eq_getElem?_getD, List.getElem?_map]
    cases params[i]? with
    | none => exact Text.isPlain_ofString _
    | some v => exact v.plain_display reference
  cases h with
  | print =>
      cases params with
      | nil =>
          rintro text ⟨⟩
          exact Text.isPlain_ofString _
      | cons v rest =>
          refine (plain_formatNumber (v.plain_display reference)).bind fun shown hPlain => ?_
          rintro text ⟨⟩
          simp [hPlain]
  | printText =>
      refine (plain_formatNumber (hShown 0)).bind fun start hStart => ?_
      refine (plain_formatNumber (hShown 1)).bind fun length hLength => ?_
      rintro text ⟨⟩
      simp [hStart, hLength]
  | stub => exact nofun

theorem unforeseen_wholeNumber (d : Datum) : Unforeseen (wholeNumber d) := by
  cases d with
  | real x =>
      simp only [wholeNumber]
      split
      · exact rfl
      · exact rfl
      · exact trivial
  | text s =>
      simp only [wholeNumber]
      split
      · exact trivial
      · simp [Ends, Failure.isUnforeseen]
  | integer n => exact trivial
  | boolean b => exact trivial
  | _ => simp [wholeNumber, wrongType, Ends, Failure.isUnforeseen]

theorem unforeseen_realNumber (d : Datum) : Unforeseen (realNumber d) := by
  cases d with
  | integer n =>
      simp only [realNumber]
      split
      · exact rfl
      · exact trivial
  | real x => exact trivial
  | boolean b => exact trivial
  | _ => simp [realNumber, wrongType, Ends, Failure.isUnforeseen]

theorem unforeseen_coerce (d : Datum) (t : ValueType) : Unforeseen (coerce d t) := by
  cases t with
  | float w => exact (unforeseen_realNumber d).map fun _ _ => trivial
  | _ => exact (unforeseen_wholeNumber d).map fun _ _ => trivial

theorem unforeseen_argument (d : Datum) (t : ValueType) : Unforeseen (argument d t) := by
  unfold argument
  split
  · exact (unforeseen_wholeNumber d).bind fun _ _ => trivial
  · exact (unforeseen_wholeNumber d).bind fun _ _ => trivial
  · exact (unforeseen_realNumber d).bind fun _ _ => trivial
  · exact (unforeseen_realNumber d).bind fun _ _ => trivial
  · exact (unforeseen_wholeNumber d).bind fun _ _ => trivial
  · refine (unforeseen_wholeNumber d).bind fun n _ => ?_
    change (Failure.unexpected _ _).isUnforeseen = true
    simp [Failure.isUnforeseen]

/-- What a host function has given back need not fit its result types. -/
theorem unforeseen_returned (types : List ValueType) (d : Datum) : Unforeseen (returned types d) := by
  unfold returned
  split
  · exact (unforeseen_argument _ _).map fun _ _ => trivial
  · exact Ends.mapM (fun (d, t) => unforeseen_argument d t) _
  · exact trivial

namespace Act.Composed

/-- A host function prints at most one line. -/
theorem hostCall (h : HostFunction) (env : Fixture) (type : FunctionType) (params : List Value) :
    Composed (h.call env type params) := by
  unfold HostFunction.call
  dsimp only
  have hPlain := plain_line h env.surroundings.reference params
  cases hLine : h.line? (params.map (Value.toDatum env.surroundings.reference)) with
  | error f =>
      rw [hLine] at hPlain
      exact halt hPlain
  | ok line =>
      rw [hLine] at hPlain
      have hZeros := unforeseen_returned type.results (stubReturn type.results)
      cases hResults : returned type.results (stubReturn type.results) with
      | ok vs =>
          cases line with
          | none => exact pure vs
          | some text => exact (print (hPlain text rfl)).bind fun _ => pure vs
      | error f =>
          rw [hResults] at hZeros
          cases line with
          | none => exact halt hZeros
          | some text => exact (print (hPlain text rfl)).bind fun _ => halt hZeros

theorem enter (env : Fixture) (c : Callee) (params : List Value) : Composed (Act.enter env c params) := by
  cases c with
  | host h type => exact (hostCall h env type params).bind fun _ => pushMany _
  | code b =>
      refine read (fun _ _ => rfl) fun m => ?_
      split
      · exact trap _
      · exact change fun _ _ => rfl

theorem call (env : Fixture) (c : Callee) : Composed (Act.call env c) := (popMany _).bind fun _ => enter env c _

theorem callLast (env : Fixture) (c : Callee) : Composed (Act.callLast env c) := by
  refine (popMany _).bind fun params => ?_
  cases c with
  | host h type => exact (hostCall h env type params).bind fun _ => (pushMany _).bind fun _ => leave
  | code b => exact change fun _ _ => rfl

theorem elementCallee (env : Fixture) (type table : Nat) :
    Composed (Act.elementCallee env type table) := by
  refine popNat.bind fun i => read (fun _ _ => rfl) fun m => (the _).bind fun t => ?_
  split
  · exact trap _
  · exact trap _
  · refine (the _).bind fun c => (the _).bind fun expected => ?_
    split
    · exact pure c
    · exact trap _
  · exact stuck

theorem conversion (c : Conversion) : Composed c.exec := by
  cases c with
  | wrap => exact (popInt _).bind fun _ => push _
  | widen s =>
      cases s with
      | signed => exact pop32.bind fun _ => push _
      | unsigned => exact pop32.bind fun _ => push _
  | truncate target source s isSaturating =>
      cases isSaturating with
      | false => exact (popFloat source).bind fun _ => (lift _).bind fun _ => push _
      | true => exact (popFloat source).bind fun _ => push _
  | convert target source s => exact (popInt source).bind fun _ => push _
  | demote => exact (popFloat _).bind fun _ => push _
  | promote => exact (popFloat _).bind fun _ => push _
  | floatBits w => exact (popFloat w).bind fun _ => push _
  | ofBits w => exact (popInt w).bind fun _ => push _

theorem execNumeric (o : Op) : Composed o.execNumeric := by
  cases o with
  | i32Const n => exact push _
  | i64Const n => exact push _
  | f32Const bits => exact push _
  | f64Const bits => exact push _
  | intEqz w => exact (popInt w).bind fun _ => push _
  | intUnary w o => exact (popInt w).bind fun _ => push _
  | intBinary w o => exact (popInt w).bind fun _ => (popInt w).bind fun _ => (lift _).bind fun _ => push _
  | intCompare w o => exact (popInt w).bind fun _ => (popInt w).bind fun _ => push _
  | floatUnary w o => exact (popFloat w).bind fun _ => push _
  | floatBinary w o => exact (popFloat w).bind fun _ => (popFloat w).bind fun _ => push _
  | floatCompare w o => exact (popFloat w).bind fun _ => (popFloat w).bind fun _ => push _
  | convert c => exact conversion c
  | _ => exact stuck

/-- An act that goes on where a bound holds, and traps where it does not. -/
theorem guarded {b : Bool} {act : Act α} (hAct : act.Composed) (t : Trap) :
    Composed (if b then act else Act.trap t) := by
  split
  · exact hAct
  · exact trap t

theorem execTable (o : Op) : Composed o.execTable := by
  cases o with
  | tableGet i =>
      refine popNat.bind fun index => (table i).bind fun t => ?_
      split
      · exact push _
      · exact trap _
  | tableSet i =>
      exact pop.bind fun _ => popNat.bind fun _ => (table i).bind fun _ => guarded (setTable _ _) _
  | tableSize i => exact (table i).bind fun _ => push _
  | tableGrow i =>
      refine popNat.bind fun delta => pop.bind fun v => (table i).bind fun t => ?_
      split
      · exact (setTable _ _).bind fun _ => push _
      · exact push _
  | tableFill i =>
      exact popNat.bind fun _ => pop.bind fun _ => popNat.bind fun _ => (table i).bind fun _ =>
        guarded (setTable _ _) _
  | tableCopy target source =>
      exact popNat.bind fun _ => popNat.bind fun _ => popNat.bind fun _ => (table target).bind fun _ =>
        (table source).bind fun _ => guarded (setTable _ _) _
  | tableInit i segment =>
      exact popNat.bind fun _ => popNat.bind fun _ => popNat.bind fun _ => (table i).bind fun _ =>
        read (fun _ _ => rfl) fun _ => (the _).bind fun _ => guarded (setTable _ _) _
  | elemDrop segment => exact change fun _ _ => rfl
  | _ => exact stuck

theorem execMemory (o : Op) : Composed o.execMemory := by
  cases o with
  | load layout a =>
      exact popNat.bind fun _ => (memory _).bind fun _ => guarded (push _) _
  | store layout a =>
      exact pop.bind fun _ => popNat.bind fun _ => (memory _).bind fun _ => guarded (setMemory _ _) _
  | memorySize i => exact (memory i).bind fun _ => push _
  | memoryGrow i =>
      refine popNat.bind fun delta => (memory i).bind fun m => ?_
      split
      · exact (setMemory _ _).bind fun _ => push _
      · exact push _
  | memoryFill i =>
      exact popNat.bind fun _ => pop32.bind fun _ => popNat.bind fun _ => (memory i).bind fun _ =>
        guarded (setMemory _ _) _
  | memoryCopy target source =>
      exact popNat.bind fun _ => popNat.bind fun _ => popNat.bind fun _ => (memory target).bind fun _ =>
        (memory source).bind fun _ => guarded (setMemory _ _) _
  | memoryInit i segment =>
      exact popNat.bind fun _ => popNat.bind fun _ => popNat.bind fun _ => (memory i).bind fun _ =>
        read (fun _ _ => rfl) fun _ => (the _).bind fun _ => guarded (setMemory _ _) _
  | dataDrop segment => exact change fun _ _ => rfl
  | _ => exact stuck

theorem execVariable (o : Op) : Composed o.execVariable := by
  cases o with
  | nop => exact pure ()
  | drop => exact pop.bind fun _ => pure ()
  | select types => exact pop32.bind fun _ => pop.bind fun _ => pop.bind fun _ => push _
  | localGet i => exact read (fun _ _ => rfl) fun _ => (the _).bind fun _ => push _
  | localSet i => exact pop.bind fun _ => modifyFrame _
  | localTee i => exact pop.bind fun _ => (modifyFrame _).bind fun _ => push _
  | globalGet i => exact read (fun _ _ => rfl) fun _ => (the _).bind fun _ => push _
  | globalSet i => exact pop.bind fun _ => change fun _ _ => rfl
  | refNull t => exact push _
  | refIsNull =>
      refine pop.bind fun v => ?_
      cases v with
      | func r => exact push _
      | external r => exact push _
      | _ => exact stuck
  | refFunc f => exact push _
  | _ => exact stuck

theorem execControl (env : Fixture) (o : Op) : Composed (o.execControl env) := by
  cases o with
  | unreachable => exact trap _
  | block t => exact (regionArity env t).bind fun _ => openRegion _ _ _
  | loop t => exact (regionArity env t).bind fun _ => code.bind fun _ => openRegion _ _ _
  | ifThen t =>
      refine pop32.bind fun c => (regionArity env t).bind fun _ => ?_
      dsimp only
      split
      · exact code.bind fun _ => (setCode _).bind fun _ => openRegion _ _ _
      · exact openRegion _ _ _
  | otherwise => exact code.bind fun _ => (setCode _).bind fun _ => close
  | endRegion => exact close
  | br i => exact jump i
  | brIf i =>
      refine pop32.bind fun c => ?_
      split
      · exact pure ()
      · exact jump i
  | brTable is fallback => exact popNat.bind fun _ => jump _
  | ret => exact leave
  | call f => exact read (fun _ _ => rfl) fun _ => (the _).bind fun c => Composed.call env c
  | callIndirect type table => exact (elementCallee env type table).bind fun c => Composed.call env c
  | returnCall f => exact (the _).bind fun c => callLast env c
  | returnCallIndirect type table => exact (elementCallee env type table).bind fun c => callLast env c
  | _ => exact stuck

/-- Every operator is of one of the four groups. -/
theorem exec (env : Fixture) (o : Op) : Composed (o.exec env) := by
  unfold Op.exec
  split <;> first
    | exact execNumeric _
    | exact execTable _
    | exact execMemory _
    | exact execVariable _
    | exact execControl env _

theorem run (env : Fixture) (fuel : Nat) : Composed (Act.run env fuel) := by
  induction fuel with
  | zero => exact trap _
  | succ fuel ih =>
      refine code.bind fun ops => ?_
      cases ops with
      | nil => exact pure ()
      | cons o rest => exact (setCode rest).bind fun _ => (exec env o).bind fun _ => ih

theorem invoke (env : Fixture) (fuel : Nat) (c : Callee) (args : List Value) :
    Composed (Act.invoke env fuel c args) := by
  cases c with
  | host h type => exact hostCall h env type args
  | code b =>
      refine (change ?_).bind fun _ => (run env fuel).bind fun _ => read (fun _ _ => rfl) fun _ => pure _
      exact fun _ _ => rfl

theorem mapM {γ : Type} {act : γ → Act α} (hEach : ∀ c, (act c).Composed) (cs : List γ) :
    Composed (cs.mapM act) := by
  induction cs with
  | nil => exact pure []
  | cons c rest ih =>
      rw [List.mapM_cons]
      exact (hEach c).bind fun _ => ih.bind fun _ => pure _

theorem constant (e : ConstExpr) : Composed (Act.constant e) := by
  induction e with
  | nil => exact pop
  | cons o rest ih =>
      unfold Act.constant
      dsimp only
      split <;> first
        | exact (execVariable _).bind fun _ => ih
        | exact (execNumeric _).bind fun _ => ih

theorem constantNat (e : ConstExpr) : Composed (Act.constantNat e) := by
  refine (constant e).bind fun v => ?_
  cases v with
  | i32 n => exact pure _
  | _ => exact stuck

theorem initGlobals (globals : List Global) : Composed (Act.initGlobals globals) := by
  induction globals with
  | nil => exact pure ()
  | cons g rest ih =>
      refine (constant g.init).bind fun v => (change ?_).bind fun _ => ih
      exact fun _ _ => rfl

theorem evalElements (segments : List ElementSegment) : Composed (Act.evalElements segments) := by
  refine mapM (fun s => ?_) segments
  exact mapM constant s.items

theorem placeElements (segments : List ElementSegment) (i : Nat) :
    Composed (Act.placeElements i segments) := by
  induction segments generalizing i with
  | nil => exact pure ()
  | cons s rest ih =>
      unfold Act.placeElements
      dsimp only
      split
      · exact ih _
      · exact (execTable _).bind fun _ => ih _
      · refine (constantNat _).bind fun start => read (fun _ _ => rfl) fun m => (the _).bind fun items =>
          read (fun _ _ => rfl) fun n => (the _).bind fun t => ?_
        split
        · exact (setTable _ _).bind fun _ => (execTable _).bind fun _ => ih _
        · exact (trap _).bind fun _ => (execTable _).bind fun _ => ih _

theorem placeData (segments : List DataSegment) (i : Nat) : Composed (Act.placeData i segments) := by
  induction segments generalizing i with
  | nil => exact pure ()
  | cons s rest ih =>
      unfold Act.placeData
      dsimp only
      split
      · refine (constantNat _).bind fun start => (memory _).bind fun m => ?_
        split
        · exact (setMemory _ _).bind fun _ => (execMemory _).bind fun _ => ih _
        · exact (trap _).bind fun _ => (execMemory _).bind fun _ => ih _
      · exact ih _

theorem setUp (m : Module) : Composed (Act.setUp m) := by
  refine (initGlobals _).bind fun _ => (evalElements _).bind fun elements => (change ?_).bind fun _ =>
    (placeElements _ _).bind fun _ => placeData _ _
  exact fun _ _ => rfl

/-- Acts end early only by halts that no class of failures was foreseen for. -/
theorem isUnforeseen {act : Act α} (hAct : act.Composed) (m : Machine) : IsUnforeseen (act.ending m).1 := by
  induction hAct generalizing m with
  | pure a => exact fun _ hError => nomatch hError
  | @bind _ _ act next _ _ ihAct ihNext =>
      rw [ending_bind]
      rcases hEnd : act.ending m with ⟨r, n⟩
      cases r with
      | ok a => exact ihNext a n
      | error h =>
          have hFirst := ihAct m
          rw [hEnd] at hFirst
          rintro g ⟨⟩
          exact hFirst h rfl
  | halt hUnforeseen =>
      intro h hError
      cases hError
      exact hUnforeseen
  | read _ _ ih => exact ih m m
  | change _ => exact fun _ hError => nomatch hError
  | print _ => exact fun _ hError => nomatch hError

/-- A change that does not touch the printed lines leaves them as they are. -/
theorem lines_of_apart {f : Machine → Machine}
    (hApart : ∀ m lines, f (m.withLines lines) = (f m).withLines lines) (m : Machine) :
    (f m).lines = m.lines := by
  have hSame : f m = (f m).withLines m.lines := hApart m m.lines
  rw [hSame, Machine.withLines_lines]

/-- Where the lines that were printed before are made of characters, all lines are. -/
theorem plain_lines {act : Act α} (hAct : act.Composed) {m : Machine} (hLines : ∀ line ∈ m.lines, line.isPlain = true) :
    ∀ line ∈ (act.ending m).2.lines, line.isPlain = true := by
  induction hAct generalizing m with
  | pure a => exact hLines
  | @bind _ _ act next _ _ ihAct ihNext =>
      have hFirst := ihAct hLines
      rw [ending_bind]
      rcases hEnd : act.ending m with ⟨r, n⟩
      rw [hEnd] at hFirst
      cases r with
      | ok a => exact ihNext a hFirst
      | error h => exact hFirst
  | halt _ => exact hLines
  | read _ _ ih => exact ih m hLines
  | @change f hApart =>
      rw [ending_modify, lines_of_apart hApart]
      exact hLines
  | print hPlain => exact List.forall_mem_cons.mpr ⟨hPlain, hLines⟩

/-- Acts do the same whatever was printed before them. -/
theorem steady {act : Act α} (hAct : act.Composed) : act.Steady := by
  induction hAct with
  | pure a => exact fun _ _ => rfl
  | @bind _ _ act next _ _ ihAct ihNext =>
      intro m earlier
      rw [ending_bind, ending_bind, ihAct m earlier]
      rcases hEnd : act.ending m with ⟨r, n⟩
      cases r with
      | ok a => exact ihNext a n earlier
      | error h => rfl
  | halt _ => exact fun _ _ => rfl
  | @read _ next hBlind _ ih =>
      intro m earlier
      rw [ending_get_bind, ending_get_bind, Machine.following, hBlind]
      exact ih m m earlier
  | @change f hApart =>
      intro m earlier
      rw [ending_modify, ending_modify, Machine.following, Machine.following, hApart, lines_of_apart hApart]
  | print _ => exact fun _ _ => rfl

end Act.Composed

end SnippetService.Wasm
