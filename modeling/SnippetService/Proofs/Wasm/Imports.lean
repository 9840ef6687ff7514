import Mathlib.Algebra.Group.Nat.Defs
import SnippetService.Proofs.Wasm.Classification
/-!
What the host lends to modules. A module is linked if the host lends all that it imports; otherwise the first import
that it does not lend is named, before anything has run. A linked module finds its imports at the places where it
declares them, each with the type that it declares, and a call of one answers zeros of that type, prints what its
name says, and goes on behind the call with nothing else changed.
-/
namespace SnippetService.Wasm

open Job

/-- What the host lends, by module and name. -/
inductive Lends : String → String → HostFunction → Prop where
  | print : Lends "env" "print" .print
  | printText : Lends "env" "print_str" .printText
  | stub {name : String} (hName : name ∈ ["fd_write", "fd_close", "fd_seek", "proc_exit"]) :
      Lends "wasi_snapshot_preview1" name .stub

/-- The failure of a module that imports what the host does not lend. -/
def unsupported (i : Import) : Failure :=
  .classified .load ("Unsupported import " ++ i.module ++ "." ++ i.name) (some unsupportedImportHint)

/-- An import is a function of this type. -/
def Import.HasType (types : List FunctionType) (i : Import) (type : FunctionType) : Prop :=
  ∃ t, i.kind = .function t ∧ types[t]? = some type

theorem named?_eq_some_iff {module name : String} {h : HostFunction} :
    HostFunction.named? module name = some h ↔ Lends module name h := by
  constructor
  · intro hNamed
    simp only [HostFunction.named?, beq_iff_eq, Bool.or_eq_true] at hNamed
    split_ifs at hNamed with hEnv hPrint hText hWasi hStub
    · cases hNamed
      rw [hEnv, hPrint]
      exact .print
    · cases hNamed
      rw [hEnv, hText]
      exact .printText
    · cases hNamed
      rw [hWasi]
      exact .stub (by simpa [or_assoc] using hStub)
  · rintro (_ | _ | hName)
    · rfl
    · rfl
    · rw [HostFunction.named?, if_neg (by decide), if_pos (by decide), if_pos]
      simpa [or_assoc] using hName

theorem lends_of_callee_ok {types : List FunctionType} {i : Import} {c : Callee} (hCallee : i.callee types = .ok c) :
    ∃ h type, Lends i.module i.name h ∧ i.HasType types type ∧ c = .host h type := by
  unfold Import.callee at hCallee
  split at hCallee
  · rename_i h t hNamed hKind
    cases hType : types[t]? with
    | none =>
        rw [hType] at hCallee
        cases hCallee
    | some type =>
        rw [hType] at hCallee
        cases hCallee
        exact ⟨h, type, named?_eq_some_iff.mp hNamed, ⟨t, hKind, hType⟩, rfl⟩
  · cases hCallee

/-- An import that is not lent is named. -/
theorem callee_of_not_isLent {types : List FunctionType} {i : Import} (hUnlent : ¬i.IsLent) :
    i.callee types = .error (unsupported i) := by
  unfold Import.callee
  split
  · rename_i h t hNamed hKind
    refine absurd ⟨(named?_isSome_iff _ _).mp ?_, t, hKind⟩ hUnlent
    rw [hNamed]
    rfl
  · rfl

section

variable {bounds : Bounds} {binary : Bytes} {p : Program}

/-- A module that imports only what is lent is linked. -/
theorem exists_hostFunctions (hLoad : Program.load bounds binary = .ok p) (hLent : ∀ i ∈ p.module.imports, i.IsLent) :
    ∃ host, p.module.hostFunctions = .ok host := by
  cases hHost : p.module.hostFunctions with
  | ok host => exact ⟨host, rfl⟩
  | error f =>
      obtain ⟨-, i, hImport, hUnlent⟩ := hostFunctions_error hLoad hHost
      exact absurd (hLent i hImport) hUnlent

/-- For a module that imports something else, the first such import is named. -/
theorem hostFunctions_unlent (hLoad : Program.load bounds binary = .ok p)
    (hUnlent : ¬∀ i ∈ p.module.imports, i.IsLent) :
    ∃ before i after, p.module.imports = before ++ i :: after ∧ (∀ k ∈ before, k.IsLent) ∧ ¬i.IsLent ∧
      p.module.hostFunctions = .error (unsupported i) := by
  cases hHost : p.module.hostFunctions with
  | ok host => exact absurd (hostFunctions_ok hHost) hUnlent
  | error f =>
      obtain ⟨before, i, after, hImports, hBefore, hCallee⟩ := split_of_mapM_error hHost
      have hImport : i ∈ p.module.imports := by
        rw [hImports]
        exact List.mem_append_right before List.mem_cons_self
      have hFirst := (not_isLent_of_callee_error hCallee fun t => importType_lt hLoad hImport).1
      rw [callee_of_not_isLent hFirst] at hCallee
      cases hCallee
      refine ⟨before, i, after, hImports, fun k hEarlier => ?_, hFirst, rfl⟩
      obtain ⟨c, hFound⟩ := hBefore k hEarlier
      exact isLent_of_callee_ok hFound

/-- A linked module finds its imports where it declares them, and its own functions behind them. -/
theorem functions_link {host : List Callee} (hHost : p.module.hostFunctions = .ok host) (env : Surroundings)
    (k : Nat) :
    (∀ i, p.module.imports[k]? = some i → ∃ h type, Lends i.module i.name h ∧ i.HasType p.module.types type ∧
      (p.link env host).fixture.functions[k]? = some (.host h type)) ∧
    (p.link env host).fixture.functions[p.module.imports.length + k]? = p.bodies[k]?.map Callee.code := by
  have hFound := forall₂_of_mapM_ok hHost
  have hLength := hFound.length_eq
  have hFunctions (n : Nat) :
      (p.link env host).fixture.functions[n]? = (host ++ p.bodies.map Callee.code)[n]? := List.getElem?_toArray
  constructor
  · intro i hImport
    obtain ⟨hBound, rfl⟩ := List.getElem?_eq_some_iff.mp hImport
    have hThere : k < host.length := hLength ▸ hBound
    have hCallee := (List.forall₂_iff_get.mp hFound).2 k hBound hThere
    obtain ⟨h, type, hLends, hType, hSame⟩ := lends_of_callee_ok hCallee
    refine ⟨h, type, hLends, hType, ?_⟩
    rw [hFunctions, List.getElem?_append_left hThere, List.getElem?_eq_getElem hThere]
    exact congrArg some hSame
  · rw [hFunctions, hLength, List.getElem?_append_right (Nat.le_add_right _ _), Nat.add_sub_cancel_left,
      List.getElem?_map]

/-- Bytes that are found in a call on an open engine are linked before anything runs. -/
theorem ending_run_binary {c : Call} {j : Journal EngineState} (hOpen : j.host.isOpen = true)
    (hBinary : classify c.code c.bytes = .ok binary)
    (hLoad : Program.load j.host.surroundings.bounds binary = .ok p) :
    ending c.run j =
      match p.module.hostFunctions with
      | .error f => (.error f, j.hosting (j.host.noted .compiled))
      | .ok host => ending ((p.link j.host.surroundings host).job c) (j.hosting (j.host.noted .compiled)) := by
  rw [ending_run hOpen, hBinary, ending_bind, ending_ofExcept]
  dsimp only
  unfold compiling linkedOf
  rw [ending_bind, ending_reach]
  dsimp only
  rw [ending_bind, ending_host]
  dsimp only [Journal.hosting_host, EngineState.surroundings_noted]
  rw [hLoad]
  dsimp only
  rw [ending_bind, ending_ofExcept]
  cases p.module.hostFunctions with
  | error f => rfl
  | ok host => rfl

end

/-- The lines that a call prints, from the texts of its parameters. -/
def HostFunction.lines : HostFunction → List Text → List Text
  | print, texts => [texts.headD [] ++ "\n"]
  | printText, texts => ["[String at " ++ texts.getD 0 "0" ++ ", length " ++ texts.getD 1 "0" ++ "]\n"]
  | stub, _ => []

/-- All values of these types are numbers. -/
def FunctionType.IsNumeric (type : FunctionType) : Prop := ∀ t ∈ type.params ++ type.results, t.isNumeric = true

instance (type : FunctionType) : Decidable type.IsNumeric :=
  inferInstanceAs (Decidable (∀ t ∈ type.params ++ type.results, t.isNumeric = true))

/-- A text shows a value, however functions are shown. -/
def Value.ShownAs (v : Value) (text : Text) : Prop :=
  ∀ reference : Nat → String, formatNumber (v.toDatum reference) = .ok text

/-- A whole number of the machine is not too long to be shown. -/
theorem wholeText_of_lt {n : Int} (hSmall : n.natAbs < 10 ^ 20) : wholeText n = .ok (toString n : Text) := by
  have hLength : (toString n.natAbs).length ≤ 20 := (Nat.length_repr_le_iff (by decide)).mpr hSmall
  have hShort : ¬Digits.limit < (toString n.natAbs).length := by
    rw [Digits.limit]
    omega
  rw [wholeText, if_neg hShort]

theorem natAbs_toInt_lt {w : Nat} (hWidth : w ≤ 64) (n : BitVec w) : n.toInt.natAbs < 10 ^ 20 := by
  have hPower : 2 ^ w ≤ 2 ^ 64 := Nat.pow_le_pow_right (by decide) hWidth
  have hLess := n.isLt
  rw [BitVec.toInt_eq_toNat_cond]
  split <;> omega

theorem exists_formatNumber (x : Float) : ∃ text, formatNumber (.real x) = .ok text := by
  rw [formatNumber]
  split
  · exact ⟨_, rfl⟩
  · exact ⟨_, rfl⟩
  · split <;> exact ⟨_, rfl⟩

theorem exists_shown {v : Value} (hNumeric : v.type.isNumeric = true) : ∃ text, v.ShownAs text := by
  cases v with
  | i32 n => exact ⟨_, fun _ => wholeText_of_lt (natAbs_toInt_lt (by decide) n)⟩
  | i64 n => exact ⟨_, fun _ => wholeText_of_lt (natAbs_toInt_lt (by decide) n)⟩
  | f32 bits =>
      obtain ⟨text, hText⟩ := exists_formatNumber _
      exact ⟨text, fun _ => hText⟩
  | f64 bits =>
      obtain ⟨text, hText⟩ := exists_formatNumber _
      exact ⟨text, fun _ => hText⟩
  | func index => cases hNumeric
  | external n => cases hNumeric

theorem exists_texts {params : List Value} (hNumeric : ∀ v ∈ params, v.type.isNumeric = true) :
    ∃ texts, List.Forall₂ Value.ShownAs params texts := by
  induction params with
  | nil => exact ⟨[], .nil⟩
  | cons v rest ih =>
      obtain ⟨text, hText⟩ := exists_shown (hNumeric v List.mem_cons_self)
      obtain ⟨texts, hTexts⟩ := ih fun w hMem => hNumeric w (List.mem_cons_of_mem v hMem)
      exact ⟨text :: texts, .cons hText hTexts⟩

/-- A call prints at most one line, which its name and the texts of its parameters decide. -/
theorem line?_eq {params : List Value} {texts : List Text} (hTexts : List.Forall₂ Value.ShownAs params texts)
    (h : HostFunction) (reference : Nat → String) :
    h.line? (params.map (Value.toDatum reference)) = .ok (h.lines texts).head? := by
  cases h with
  | print =>
      cases hTexts with
      | nil => rfl
      | cons hText _ =>
          change (formatNumber _ >>= _) = _
          rw [hText]
          rfl
  | printText =>
      change (formatNumber _ >>= _) = _
      rcases hTexts with _ | ⟨hStart, _ | ⟨hLength, _⟩⟩
      · rfl
      · change (formatNumber (Value.toDatum _ _) >>= _) = _
        rw [hStart]
        rfl
      · change (formatNumber (Value.toDatum _ _) >>= _) = _
        rw [hStart]
        change (formatNumber (Value.toDatum _ _) >>= _) = _
        rw [hLength]
        rfl
  | stub => rfl

theorem argument_zero {t : ValueType} (hNumeric : t.isNumeric = true) : argument (zero t) t = .ok (.default t) := by
  cases t with
  | ref r => cases hNumeric
  | int w => cases w <;> rfl
  | float w => cases w <;> rfl

theorem arguments_zero {types : List ValueType} (hNumeric : ∀ t ∈ types, t.isNumeric = true) :
    (((types.map zero).zip types).mapM fun (d, t) => argument d t) = .ok (types.map Value.default) := by
  induction types with
  | nil => rfl
  | cons t rest ih =>
      rw [List.map_cons, List.zip_cons_cons, List.mapM_cons,
        ih fun u hMem => hNumeric u (List.mem_cons_of_mem t hMem)]
      change (argument (zero t) t >>= _) = _
      rw [argument_zero (hNumeric t List.mem_cons_self)]
      rfl

/-- What the host answers are the zeros of the result types, however many there are. -/
theorem returned_stubReturn {types : List ValueType} (hNumeric : ∀ t ∈ types, t.isNumeric = true) :
    returned types (stubReturn types) = .ok (types.map Value.default) := by
  match types with
  | [] => rfl
  | [t] =>
      rw [stubReturn, returned, argument_zero (hNumeric t List.mem_cons_self)]
      rfl
  | _ :: _ :: _ => exact arguments_zero hNumeric

/-- A call of the host answers zeros of its result types, and leaves the machine as it is but for the lines that it
prints. -/
theorem ending_hostCall {type : FunctionType} (hResults : ∀ t ∈ type.results, t.isNumeric = true)
    {params : List Value} {texts : List Text} (hTexts : List.Forall₂ Value.ShownAs params texts)
    (h : HostFunction) (env : Fixture) (m : Machine) :
    (h.call env type params).ending m =
      (.ok (type.results.map Value.default), m.withLines (h.lines texts ++ m.lines)) := by
  unfold HostFunction.call
  rw [line?_eq hTexts, returned_stubReturn hResults]
  cases h <;> rfl

/-- How an operator comes to call a function: from which operands, above the parameters, it takes it, and whether the
function is called in the place of the one that is running. -/
inductive Op.Calls (env : Fixture) (tables : Array (Elements Value)) (c : Callee) :
    Op → List Value → Bool → Prop where
  | call {f : Nat} (hFunction : env.functions[f]? = some c) : Calls env tables c (.call f) [] false
  | callIndirect {type table f : Nat} {t : Elements Value} {index : BitVec 32}
      (hTable : tables[table]? = some t) (hElement : t.items[index.toNat]? = some (.func (some f)))
      (hFunction : env.functions[f]? = some c) (hType : env.types[type]? = some c.type) :
      Calls env tables c (.callIndirect type table) [.i32 index] false
  | returnCall {f : Nat} (hFunction : env.functions[f]? = some c) : Calls env tables c (.returnCall f) [] true
  | returnCallIndirect {type table f : Nat} {t : Elements Value} {index : BitVec 32}
      (hTable : tables[table]? = some t) (hElement : t.items[index.toNat]? = some (.func (some f)))
      (hFunction : env.functions[f]? = some c) (hType : env.types[type]? = some c.type) :
      Calls env tables c (.returnCallIndirect type table) [.i32 index] true

namespace Machine

/-- The machine with other operands. -/
def withOperands (m : Machine) (operands : List Value) : Machine :=
  { m with frame := { m.frame with operands := operands } }

/-- The machine with other operators to run. -/
def withCode (m : Machine) (code : List Op) : Machine := { m with frame := { m.frame with code := code } }

/-- The machine behind a call that has returned. A call in the place of the function that is running returns from that
function too. -/
def behind (m : Machine) (isLast : Bool) : Machine := if isLast then m.returned else m

end Machine

/-- What a function of the host does for whoever calls it with these parameters, which are shown as these texts. -/
structure HostFunction.Serves (env : Fixture) (h : HostFunction) (type : FunctionType) (params : List Value)
    (texts : List Text) : Prop where
  /-- It answers zeros of its result types, and leaves the machine as it is but for the lines that it prints. -/
  answers (m : Machine) : (h.call env type params).ending m =
    (.ok (type.results.map Value.default), m.withLines (h.lines texts ++ m.lines))
  /-- A run whose next operator calls it goes on behind the call, with the zeros in the place of the parameters. -/
  resumes {m : Machine} {o : Op} {rest : List Op} {above below : List Value} {isLast : Bool} (fuel : Nat)
    (hCalls : o.Calls env m.tables (.host h type) above isLast) (hCode : m.frame.code = o :: rest)
    (hOperands : m.frame.operands = above ++ params.reverse ++ below) :
    (Act.run env (fuel + 1)).ending m =
      (Act.run env fuel).ending ((((m.withCode rest).withOperands
        ((type.results.map Value.default).reverse ++ below)).withLines (h.lines texts ++ m.lines)).behind isLast)

section

variable {env : Fixture} {m : Machine} {h : HostFunction} {type : FunctionType} {params below : List Value}
  {texts : List Text}

theorem ending_popMany {count : Nat} (hCount : params.length = count)
    (hOperands : m.frame.operands = params.reverse ++ below) :
    (Act.popMany count).ending m = (.ok params, m.withOperands below) := by
  have hLength : params.reverse.length = count := by rw [List.length_reverse, hCount]
  change (Except.ok (m.frame.operands.take count).reverse, m.withOperands (m.frame.operands.drop count)) = _
  rw [hOperands, ← hLength, List.take_left, List.drop_left, List.reverse_reverse]

theorem ending_call_host (hCount : params.length = type.params.length)
    (hOperands : m.frame.operands = params.reverse ++ below)
    (hResults : ∀ t ∈ type.results, t.isNumeric = true) (hTexts : List.Forall₂ Value.ShownAs params texts) :
    (Act.call env (.host h type)).ending m =
      (.ok (), (m.withOperands ((type.results.map Value.default).reverse ++ below)).withLines
        (h.lines texts ++ m.lines)) := by
  rw [Act.call, Act.ending_bind, Callee.type, ending_popMany hCount hOperands]
  dsimp only [Act.enter]
  rw [Act.ending_bind, ending_hostCall hResults hTexts]
  rfl

theorem ending_callLast_host (hCount : params.length = type.params.length)
    (hOperands : m.frame.operands = params.reverse ++ below)
    (hResults : ∀ t ∈ type.results, t.isNumeric = true) (hTexts : List.Forall₂ Value.ShownAs params texts) :
    (Act.callLast env (.host h type)).ending m =
      (.ok (), ((m.withOperands ((type.results.map Value.default).reverse ++ below)).withLines
        (h.lines texts ++ m.lines)).returned) := by
  rw [Act.callLast, Act.ending_bind, Callee.type, ending_popMany hCount hOperands]
  dsimp only
  rw [Act.ending_bind, ending_hostCall hResults hTexts, Act.leave_eq_modify]
  rfl

theorem ending_pop {v : Value} (hOperands : m.frame.operands = v :: below) :
    Act.pop.ending m = (.ok v, m.withOperands below) := by
  rw [Act.pop, Act.ending_get_bind, hOperands]
  rfl

theorem ending_popNat {n : BitVec 32} (hOperands : m.frame.operands = .i32 n :: below) :
    Act.popNat.ending m = (.ok n.toNat, m.withOperands below) := by
  rw [Act.popNat, Act.ending_bind, Act.pop32, Act.ending_bind, ending_pop hOperands]
  rfl

/-- A function that an element of a table refers to is found, and its index is taken from the operands. -/
theorem ending_elementCallee {table t f : Nat} {e : Elements Value} {c : Callee} {index : BitVec 32}
    (hTable : m.tables[table]? = some e)
    (hElement : e.items[index.toNat]? = some (.func (some f))) (hFunction : env.functions[f]? = some c)
    (hType : env.types[t]? = some c.type) (hOperands : m.frame.operands = .i32 index :: below) :
    (Act.elementCallee env t table).ending m = (.ok c, m.withOperands below) := by
  have hKept : (m.withOperands below).tables[table]? = some e := hTable
  rw [Act.elementCallee, Act.ending_bind, ending_popNat hOperands]
  dsimp only
  rw [Act.ending_get_bind, hKept]
  simp only [Act.the, Act.ending_bind, Act.ending_pure, hElement, hFunction, hType, beq_self_eq_true, ↓reduceIte]

/-- An operator that calls a function of the host takes the parameters from the operands and leaves zeros in their
place. -/
theorem ending_exec_calls {o : Op} {above : List Value} {isLast : Bool}
    (hCalls : o.Calls env m.tables (.host h type) above isLast) (hCount : params.length = type.params.length)
    (hOperands : m.frame.operands = above ++ params.reverse ++ below)
    (hResults : ∀ t ∈ type.results, t.isNumeric = true) (hTexts : List.Forall₂ Value.ShownAs params texts) :
    (o.exec env).ending m =
      (.ok (), ((m.withOperands ((type.results.map Value.default).reverse ++ below)).withLines
        (h.lines texts ++ m.lines)).behind isLast) := by
  cases hCalls with
  | call hFunction =>
      simp only [Op.exec, Op.execControl, hFunction, Act.the, Act.ending_bind, Act.ending_pure]
      exact ending_call_host hCount hOperands hResults hTexts
  | callIndirect hTable hElement hFunction hType =>
      simp only [Op.exec, Op.execControl, Act.ending_bind,
        ending_elementCallee hTable hElement hFunction hType hOperands]
      exact ending_call_host hCount rfl hResults hTexts
  | returnCall hFunction =>
      simp only [Op.exec, Op.execControl, hFunction, Act.the, Act.ending_bind, Act.ending_pure]
      exact ending_callLast_host hCount hOperands hResults hTexts
  | returnCallIndirect hTable hElement hFunction hType =>
      simp only [Op.exec, Op.execControl, Act.ending_bind,
        ending_elementCallee hTable hElement hFunction hType hOperands]
      exact ending_callLast_host hCount rfl hResults hTexts

/-- A function of the host serves whoever calls it with as many numbers as it takes. -/
theorem serves (hCount : params.length = type.params.length) (hResults : ∀ t ∈ type.results, t.isNumeric = true)
    (hTexts : List.Forall₂ Value.ShownAs params texts) (h : HostFunction) : h.Serves env type params texts where
  answers m := ending_hostCall hResults hTexts h env m
  resumes {m o rest above below isLast} fuel hCalls hCode hOperands := by
    have hStep := ending_exec_calls (m := m.withCode rest) hCalls hCount hOperands hResults hTexts
    have hNext : Act.code.ending m = (.ok (o :: rest), m) := by
      rw [← hCode]
      rfl
    have hTaken : (Act.setCode rest).ending m = (.ok (), m.withCode rest) := rfl
    rw [Act.run, Act.ending_bind, hNext]
    dsimp only
    rw [Act.ending_bind, hTaken]
    dsimp only
    rw [Act.ending_bind, hStep]
    rfl

end

section

variable {binary : Bytes} {p : Program}

/-- The bytes of a call on an open engine are linked exactly if all that they import is lent; otherwise the call fails,
before any function was entered or any line printed, and names the first import that is not lent. In a linked program
the functions stand at the places at which they are imported, the program's own behind them, and each that is imported
with numbers alone serves every call: it answers one zero for each result, the run goes on behind the call, and what is
printed is decided by the name of the import. -/
theorem imports_served {c : Call} {j : Journal EngineState} (hOpen : j.host.isOpen = true)
    (hBinary : classify c.code c.bytes = .ok binary)
    (hLoad : Program.load j.host.surroundings.bounds binary = .ok p) :
    ((∃ l, c.linked j.host.surroundings = .ok l) ↔ ∀ i ∈ p.module.imports, i.IsLent) ∧
    ((¬∀ i ∈ p.module.imports, i.IsLent) →
      ∃ before i after, p.module.imports = before ++ i :: after ∧ (∀ k ∈ before, k.IsLent) ∧ ¬i.IsLent ∧
        ending c.run j = (.error (unsupported i), j.hosting (j.host.noted .compiled))) ∧
    ∀ l, c.linked j.host.surroundings = .ok l →
      ending c.run j = ending (l.job c) (j.hosting (j.host.noted .compiled)) ∧
      (∀ k, l.fixture.functions[p.module.imports.length + k]? = p.bodies[k]?.map Callee.code) ∧
      ∀ (k : Nat) (i : Import), p.module.imports[k]? = some i →
        ∃ h type, Lends i.module i.name h ∧ i.HasType p.module.types type ∧
          l.fixture.functions[k]? = some (.host h type) ∧
          (type.IsNumeric → ∀ params, params.map Value.type = type.params →
            ∃ texts, List.Forall₂ Value.ShownAs params texts ∧ h.Serves l.fixture type params texts) := by
  have hRun := ending_run_binary hOpen hBinary hLoad
  have hLinked : c.linked j.host.surroundings = p.module.hostFunctions.map (p.link j.host.surroundings) := by
    rw [Call.linked, hBinary]
    change linkedOf _ binary = _
    rw [linkedOf, hLoad]
  refine ⟨?linked, ?unlent, ?served⟩
  case linked =>
    rw [hLinked]
    constructor
    · rintro ⟨l, hLink⟩
      cases hHost : p.module.hostFunctions with
      | ok host => exact hostFunctions_ok hHost
      | error f =>
          rw [hHost] at hLink
          cases hLink
    · intro hLent
      obtain ⟨host, hHost⟩ := exists_hostFunctions hLoad hLent
      rw [hHost]
      exact ⟨_, rfl⟩
  case unlent =>
    intro hUnlent
    obtain ⟨before, i, after, hImports, hBefore, hFirst, hHost⟩ := hostFunctions_unlent hLoad hUnlent
    rw [hHost] at hRun
    exact ⟨before, i, after, hImports, hBefore, hFirst, hRun⟩
  case served =>
    intro l hLink
    rw [hLinked] at hLink
    cases hHost : p.module.hostFunctions with
    | error f =>
        rw [hHost] at hLink
        cases hLink
    | ok host =>
        rw [hHost] at hLink hRun
        cases hLink
        refine ⟨hRun, fun k => (functions_link hHost _ k).2, fun k i hImport => ?_⟩
        obtain ⟨h, type, hLends, hType, hFunction⟩ := (functions_link hHost _ k).1 i hImport
        refine ⟨h, type, hLends, hType, hFunction, fun hNumeric params hParams => ?_⟩
        have hEach (v : Value) (hMem : v ∈ params) : v.type.isNumeric = true :=
          hNumeric v.type (List.mem_append_left _ (hParams ▸ List.mem_map_of_mem hMem))
        have hCount : params.length = type.params.length := by rw [← hParams, List.length_map]
        obtain ⟨texts, hTexts⟩ := exists_texts hEach
        exact ⟨texts, hTexts, serves hCount (fun t hMem => hNumeric t (List.mem_append_right _ hMem)) hTexts h⟩

end

/-- A module that imports two functions of one type, by which a number is answered with two, and has one of its own. -/
def borrowing : Call where
  code := none
  bytes := some [0, 97, 115, 109, 1, 0, 0, 0, 1, 10, 2, 96, 1, 127, 2, 126, 124, 96, 0, 0,
    2, 48, 2, 3, 101, 110, 118, 5, 112, 114, 105, 110, 116, 0, 0,
    22, 119, 97, 115, 105, 95, 115, 110, 97, 112, 115, 104, 111, 116, 95, 112, 114, 101, 118, 105, 101, 119, 49,
    9, 112, 114, 111, 99, 95, 101, 120, 105, 116, 0, 0]

def borrowed : FunctionType := ⟨[.i32], [.i64, .f64]⟩

/-- The first import of the module is found at the first place, and serves a call that is given a number. -/
theorem imports_served_borrowing :
    ∃ l, borrowing.linked .small = .ok l ∧ l.fixture.functions[0]? = some (.host .print borrowed) ∧
      HostFunction.print.Serves l.fixture borrowed [.i32 7] ["7"] := by
  have hNames : ((Program.load Surroundings.small.bounds (borrowing.bytes.getD [])).toOption.bind fun p =>
      p.module.imports[0]?.map fun i => (i.module, i.name)) = some ("env", "print") := by
    decide +kernel
  have hTypes : ((borrowing.linked .small).toOption.bind fun l => l.fixture.functions[0]?.map Callee.type) =
      some borrowed := by
    decide +kernel
  obtain ⟨p, hLoad, hName⟩ := Option.bind_eq_some_iff.mp hNames
  obtain ⟨⟨_, _, kind⟩, hImport, ⟨⟩⟩ := Option.map_eq_some_iff.mp hName
  obtain ⟨l, hLinked, hType⟩ := Option.bind_eq_some_iff.mp hTypes
  obtain ⟨-, -, hServed⟩ :=
    imports_served (c := borrowing) (j := ⟨{ surroundings := .small, steps := 0 }, [], []⟩) rfl rfl
      (eq_ok_of_toOption hLoad)
  obtain ⟨h, type, hLends, -, hFunction, hServes⟩ := (hServed l (eq_ok_of_toOption hLinked)).2.2 0 _ hImport
  obtain ⟨⟩ : some h = some HostFunction.print := (named?_eq_some_iff.mpr hLends).symm
  rw [hFunction] at hType
  cases hType
  obtain ⟨texts, hTexts, hServes⟩ := hServes (by decide) [.i32 7] rfl
  have hSeven : Value.ShownAs (.i32 7) "7" := fun _ => rfl
  rcases hTexts with _ | ⟨hText, _ | _⟩
  obtain rfl := Except.ok.inj ((hSeven fun _ => "").symm.trans (hText fun _ => ""))
  exact ⟨l, eq_ok_of_toOption hLinked, hFunction, hServes⟩

end SnippetService.Wasm
