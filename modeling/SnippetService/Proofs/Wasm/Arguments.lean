import Mathlib.Data.Rat.Floor
import SnippetService.Proofs.Numeric.Double
import SnippetService.Proofs.Wasm.Deadline
/-!
How the arguments of a call reach the function that it names. Which parameters fit which arguments, and what they then
receive, is stated without the engine: integers are cut off toward zero and wrapped, floats are taken as they are or as
the nearest double. The function is entered exactly if the counts agree and all arguments fit; otherwise the call
fails for the count, or for the first argument that does not fit, and nothing has happened but the timer.
-/
namespace SnippetService.Wasm

open Job

/-- A number without its fraction, cut off toward zero. -/
def truncated (q : ℚ) : Int := if q < 0 then ⌈q⌉ else ⌊q⌋

/-- A number among the data. -/
inductive IsNumber : Datum → Prop where
  | integer (n : Int) : IsNumber (.integer n)
  | real (x : Float) : IsNumber (.real x)

/-- The integer that a number is taken for where one is called for. -/
inductive TakenWhole : Datum → Int → Prop where
  | integer (n : Int) : TakenWhole (.integer n) n
  | real {x : Float} {q : ℚ} (hNumber : (BinaryValue.ofDouble x).number? = some q) :
      TakenWhole (.real x) (truncated q)

/-- The pattern of the double that a number is taken for: itself, or the nearest one, with the sign of the integer. -/
inductive TakenReal : Datum → BitVec 64 → Prop where
  | real (x : Float) : TakenReal (.real x) x.toBits.toBitVec
  | integer {n : Int} {y : ℚ} {bits : BitVec 64} (hNearest : BinaryFormat.double.Nearest n y bits.toNat)
      (hSign : BinaryFormat.double.isNegative bits.toNat = decide (n < 0)) : TakenReal (.integer n) bits

/-- What a parameter of a type receives for a number. -/
inductive Receives : Datum → ValueType → Value → Prop where
  /-- The integer modulo its width, in the signed range. -/
  | int {d : Datum} {n : Int} {w : Width} {bits : BitVec w.bits} (hWhole : TakenWhole d n)
      (hWrapped : bits.toInt = n.bmod (2 ^ w.bits)) : Receives d (.int w) (.int w bits)
  | double {d : Datum} {bits : BitVec 64} (hReal : TakenReal d bits) : Receives d .f64 (.f64 bits)
  /-- The double, rounded once more. -/
  | single {d : Datum} {bits : BitVec 64} (hReal : TakenReal d bits) :
      Receives d .f32 (.f32 (.ofNat 32 (BinaryFormat.double.convert .single bits.toNat)))

/-- Why a number cannot be passed for a parameter of a type. -/
inductive Misfit : Datum → ValueType → Failure → Prop where
  | nan {x : Float} {w : Width} (hNaN : BinaryValue.ofDouble x = .nan) :
      Misfit (.real x) (.int w) (.unexpected .value "cannot convert float NaN to integer")
  | infinite {x : Float} {w : Width} {negative : Bool} (hInfinite : BinaryValue.ofDouble x = .infinity negative) :
      Misfit (.real x) (.int w) (.unexpected .overflow "cannot convert float infinity to integer")
  | great {n : Int} {w : Width} (hGreat : 2 ^ 1024 - 2 ^ 970 ≤ |n|) :
      Misfit (.integer n) (.float w) (.unexpected .overflow "int too large to convert to float")

/-- A number can be passed for a parameter of a type. -/
def Fits (d : Datum) (t : ValueType) : Prop := ∀ f, ¬Misfit d t f

section

variable {d : Datum} {t : ValueType}

theorem truncated_negatedIf {x : ℚ} (hX : 0 ≤ x) (negative : Bool) :
    truncated (negatedIf negative x) = if negative then -⌊x⌋ else ⌊x⌋ := by
  cases negative with
  | false => exact if_neg (not_lt.mpr hX)
  | true =>
      change (if -x < 0 then ⌈-x⌉ else ⌊-x⌋) = -⌊x⌋
      split
      case isTrue => exact Int.ceil_neg
      case isFalse hZero =>
        obtain rfl : x = 0 := by linarith
        simp

/-- The fraction of a finite value is cut off as that of the number for which it stands. -/
theorem truncate?_eq {v : BinaryValue} {q : ℚ} (hNumber : v.number? = some q) :
    v.truncate? = some (truncated q) := by
  obtain ⟨negative, magnitude, exponent, rfl, rfl⟩ := BinaryValue.exists_finite hNumber
  have hSize : ⌊(magnitude * 2 ^ exponent : ℚ)⌋ =
      (if exponent < 0 then magnitude / Nat.pow 2 (-exponent).toNat
        else magnitude * Nat.pow 2 exponent.toNat : ℕ) := by
    split
    case isTrue hNegative =>
      rw [two_zpow_of_neg hNegative, ← div_eq_mul_inv, Rat.floor_natCast_div_natCast]
      rfl
    case isFalse hPositive =>
      rw [two_zpow_of_nonneg (not_lt.mp hPositive), ← Nat.cast_mul, Int.floor_natCast]
      rfl
  rw [truncated_negatedIf (by positivity), hSize]
  rfl

/-- A number is taken for an integer, or is no number or infinite. -/
theorem wholeNumber_cases (hNumber : IsNumber d) (w : Width) :
    (∃ n, TakenWhole d n ∧ wholeNumber d = .ok n) ∨ ∃ f, Misfit d (.int w) f ∧ wholeNumber d = .error f := by
  cases hNumber with
  | integer n => exact .inl ⟨n, .integer n, rfl⟩
  | real x =>
      cases hValue : BinaryValue.ofDouble x with
      | nan => exact .inr ⟨_, .nan hValue, by simp only [wholeNumber, hValue]⟩
      | infinity negative => exact .inr ⟨_, .infinite hValue, by simp only [wholeNumber, hValue]⟩
      | finite negative magnitude exponent =>
          have hStands : (BinaryValue.ofDouble x).number? = some (negatedIf negative (magnitude * 2 ^ exponent)) := by
            rw [hValue]
            rfl
          have hTruncated := truncate?_eq hStands
          rw [hValue] at hTruncated
          exact .inl ⟨_, .real hStands, by simp only [wholeNumber, hValue, hTruncated, Option.getD_some]⟩

/-- A number is taken for a double, or is too great an integer. -/
theorem realNumber_cases (hNumber : IsNumber d) (w : Width) :
    (∃ x, TakenReal d x.toBits.toBitVec ∧ realNumber d = .ok x) ∨
    ∃ f, Misfit d (.float w) f ∧ realNumber d = .error f := by
  cases hNumber with
  | real x => exact .inl ⟨x, .real x, rfl⟩
  | integer n =>
      by_cases hInfinite : (doubleOfInt n).isInf = true
      · refine .inr ⟨_, .great ((isInf_doubleOfInt_iff n).mp hInfinite), ?_⟩
        simp only [realNumber, hInfinite, ↓reduceIte]
      · obtain ⟨hSign, y, hNearest⟩ := nearest_doubleOfInt hInfinite
        refine .inl ⟨doubleOfInt n, .integer hNearest hSign, ?_⟩
        simp only [realNumber, hInfinite]
        rfl

/-- A number that fits is coerced to one that is passed, and the parameter receives it; any other fails. -/
theorem coerce_cases (hNumber : IsNumber d) (hNumeric : t.isNumeric = true) :
    (∃ e v, coerce d t = .ok e ∧ argument e t = .ok v ∧ Receives d t v) ∨
    ∃ f, Misfit d t f ∧ coerce d t = .error f := by
  cases t with
  | ref r => cases hNumeric
  | int w =>
      have hCoerce : coerce d (.int w) = (wholeNumber d).map .integer := rfl
      rcases wholeNumber_cases hNumber w with ⟨n, hWhole, hTaken⟩ | ⟨f, hMisfit, hFails⟩
      · refine .inl ⟨.integer n, .int w (.ofInt w.bits n), ?_, ?_, .int hWhole (BitVec.toInt_ofInt n)⟩
        · rw [hCoerce, hTaken]
          rfl
        · cases w <;> rfl
      · exact .inr ⟨f, hMisfit, by rw [hCoerce, hFails]; rfl⟩
  | float w =>
      have hCoerce : coerce d (.float w) = (realNumber d).map .real := rfl
      rcases realNumber_cases hNumber w with ⟨x, hReal, hTaken⟩ | ⟨f, hMisfit, hFails⟩
      · rw [hTaken] at hCoerce
        cases w with
        | w32 => exact .inl ⟨.real x, _, hCoerce, rfl, .single hReal⟩
        | w64 =>
            have hBits : BitVec.ofNat 64 x.toBits.toNat = x.toBits.toBitVec :=
              (BitVec.ofNat_toNat 64 x.toBits.toBitVec).trans (BitVec.setWidth_eq _)
            exact .inl ⟨.real x, _, hCoerce, rfl, hBits ▸ .double hReal⟩
      · exact .inr ⟨f, hMisfit, by rw [hCoerce, hFails]; rfl⟩

/-- There is one failure for a number that does not fit. -/
theorem coerce_of_misfit {f : Failure} (hMisfit : Misfit d t f) : coerce d t = .error f := by
  cases hMisfit with
  | nan hNaN => simp only [coerce, wholeNumber, hNaN, Except.map]
  | infinite hInfinite => simp only [coerce, wholeNumber, hInfinite, Except.map]
  | great hGreat => simp only [coerce, realNumber, (isInf_doubleOfInt_iff _).mpr hGreat, ↓reduceIte, Except.map]

theorem coerce_of_fits (hNumber : IsNumber d) (hNumeric : t.isNumeric = true) (hFits : Fits d t) :
    ∃ e v, coerce d t = .ok e ∧ argument e t = .ok v ∧ Receives d t v :=
  (coerce_cases hNumber hNumeric).resolve_right fun ⟨f, hMisfit, _⟩ => hFits f hMisfit

theorem fits_of_coerce {e : Datum} (hCoerce : coerce d t = .ok e) : Fits d t := by
  intro f hMisfit
  rw [coerce_of_misfit hMisfit] at hCoerce
  cases hCoerce

theorem misfit_of_coerce (hNumber : IsNumber d) (hNumeric : t.isNumeric = true) {f : Failure}
    (hCoerce : coerce d t = .error f) : Misfit d t f := by
  rcases coerce_cases hNumber hNumeric with ⟨e, v, hOk, -, -⟩ | ⟨g, hMisfit, hFails⟩
  · cases hOk.symm.trans hCoerce
  · cases hFails.symm.trans hCoerce
    exact hMisfit

end

section

variable {args : List Datum} {params : List ValueType}

/-- Arguments that all fit are all received, each by the parameter at its place. -/
theorem arguments_fit {pairs : List (Datum × ValueType)} (hNumbers : ∀ p ∈ pairs, IsNumber p.1)
    (hNumeric : ∀ p ∈ pairs, p.2.isNumeric = true) (hFits : ∀ p ∈ pairs, Fits p.1 p.2) :
    ∃ coerced values, (pairs.mapM fun (d, t) => coerce d t) = .ok coerced ∧
      ((coerced.zip (pairs.map Prod.snd)).mapM fun (d, t) => argument d t) = .ok values ∧
      List.Forall₂ (fun p v => Receives p.1 p.2 v) pairs values := by
  induction pairs with
  | nil => exact ⟨[], [], rfl, rfl, .nil⟩
  | cons p rest ih =>
      rw [List.forall_mem_cons] at hNumbers hNumeric hFits
      obtain ⟨coerced, values, hCoerced, hArguments, hReceived⟩ := ih hNumbers.2 hNumeric.2 hFits.2
      obtain ⟨e, v, hCoerce, hArgument, hReceives⟩ := coerce_of_fits hNumbers.1 hNumeric.1 hFits.1
      refine ⟨e :: coerced, v :: values, ?_, ?_, .cons hReceives hReceived⟩
      · rw [List.mapM_cons, hCoerced]
        change (coerce p.1 p.2 >>= _) = _
        rw [hCoerce]
        rfl
      · rw [List.map_cons, List.zip_cons_cons, List.mapM_cons, hArguments]
        change (argument e p.2 >>= _) = _
        rw [hArgument]
        rfl

/-- The failure of arguments that cannot all be passed: for their number, or for the first that does not fit. -/
inductive Refused (name : String) (args : List Datum) (params : List ValueType) : Failure → Prop where
  | miscounted (hCount : args.length ≠ params.length) :
      Refused name args params (.classified .evaluation
        (name ++ " expects " ++ toString params.length ++ " argument(s), got " ++ toString args.length)
        (some argumentHint))
  | misfit {before after : List (Datum × ValueType)} {d : Datum} {t : ValueType} {f : Failure}
      (hCount : args.length = params.length) (hSplit : args.zip params = before ++ (d, t) :: after)
      (hBefore : ∀ p ∈ before, Fits p.1 p.2) (hMisfit : Misfit d t f) : Refused name args params f

/-- The arguments of a call by name are all received, or the call is refused. -/
theorem arguments_cases (hCount : args.length = params.length) (hNumbers : ∀ d ∈ args, IsNumber d)
    (hNumeric : ∀ t ∈ params, t.isNumeric = true) (name : String) :
    (List.Forall₂ Fits args params ∧ ∃ values, arguments args params = .ok values ∧
      List.Forall₂ (fun p v => Receives p.1 p.2 v) (args.zip params) values) ∨
    (¬List.Forall₂ Fits args params ∧ ∃ f, Refused name args params f ∧ arguments args params = .error f) := by
  have hPairNumbers (p : Datum × ValueType) (hMem : p ∈ args.zip params) : IsNumber p.1 :=
    hNumbers p.1 (List.of_mem_zip hMem).1
  have hPairNumeric (p : Datum × ValueType) (hMem : p ∈ args.zip params) : p.2.isNumeric = true :=
    hNumeric p.2 (List.of_mem_zip hMem).2
  have hTypes : (args.zip params).map Prod.snd = params := List.map_snd_zip hCount.ge
  by_cases hFits : ∀ p ∈ args.zip params, Fits p.1 p.2
  · obtain ⟨coerced, values, hCoerced, hArguments, hReceived⟩ := arguments_fit hPairNumbers hPairNumeric hFits
    refine .inl ⟨List.forall₂_iff_zip.mpr ⟨hCount, fun hMem => hFits _ hMem⟩, values, ?_, hReceived⟩
    rw [hTypes] at hArguments
    rw [arguments, hCoerced]
    exact hArguments
  · refine .inr ⟨fun hAll => hFits fun p hMem => (List.forall₂_iff_zip.mp hAll).2 hMem, ?_⟩
    cases hCoerced : (args.zip params).mapM fun (d, t) => coerce d t with
    | ok coerced =>
        have hEach := (forall₂_of_mapM_ok hCoerced).imp fun _ _ hCoerce => And.intro (fits_of_coerce hCoerce) hCoerce
        exact absurd ((List.forall₂_and_left _ _).mp hEach).1 hFits
    | error f =>
        obtain ⟨before, ⟨d, t⟩, after, hSplit, hBefore, hFails⟩ := split_of_mapM_error hCoerced
        have hMem : (d, t) ∈ args.zip params := by
          rw [hSplit]
          exact List.mem_append_right before List.mem_cons_self
        have hMisfit := misfit_of_coerce (hPairNumbers _ hMem) (hPairNumeric _ hMem) hFails
        have hEarlier (p : Datum × ValueType) (hPair : p ∈ before) : Fits p.1 p.2 := by
          obtain ⟨e, hCoerce⟩ := hBefore p hPair
          exact fits_of_coerce hCoerce
        refine ⟨f, .misfit hCount hSplit hEarlier hMisfit, ?_⟩
        rw [arguments, hCoerced]
        rfl

end

/-- Work for which the timer runs, and then the answer that the lines of the engine make. -/
def answering (work : EngineJob Unit) : EngineJob RunResult := do
  timed work
  let output : Text := (← Job.host).lines.reverse.flatten
  return finished (orElseText output noOutput)

section

variable {c : Call} {l : Linked} {x : Instance} {j k : Journal EngineState} {name : String} {f : Callee}

theorem choose_exported (hName : name ≠ "") (hExported : x.functions.lookup name = some f) :
    EntryPoint.choose x.functions (some (name : Text)) = .named name f := by
  simp [EntryPoint.choose, Option.filter, hName, hExported]

/-- A call of a linked program works on the instance that is made. -/
theorem ending_run_made (hOpen : j.host.isOpen = true) (hLinked : c.linked j.host.surroundings = .ok l)
    (hMade : ending (instantiate l) (j.hosting (j.host.noted .compiled)) = (.ok x, k)) :
    ending c.run j = ending (answering (enter x c.args (.choose x.functions c.entryPoint))) k := by
  cases c.approach j.host.surroundings with
  | refused hOther _ => cases hLinked.symm.trans hOther
  | unlinked hOther _ => cases hLinked.symm.trans hOther
  | linked hOther hRun =>
      cases hLinked.symm.trans hOther
      rw [hRun hOpen rfl, Linked.job, ending_bind, hMade]
      rfl

/-- The function that is named is invoked if the arguments fit, and no other. -/
theorem invoked?_eq {env : Surroundings} (hLinked : c.linked env = .ok l) (hFunctions : x.functions = l.exports)
    (hAsked : c.entryPoint = some (name : Text)) (hName : name ≠ "") (hExported : x.functions.lookup name = some f) :
    l.invoked? c = ((Role.named name).values? c.args f.type.params).map fun _ => f := by
  have hChoice := target_choose l.exports c.entryPoint
  rw [names_linked hLinked, hAsked, ← hFunctions, choose_exported hName hExported] at hChoice
  rw [Linked.invoked?, Linked.target?, hAsked, ← hFunctions, ← hChoice]
  rfl

/-- The arguments of a call by name either all fit, and then they are the values on which the function is invoked, or
the call is refused and comes to nothing. -/
theorem enter_named_cases (hNumbers : ∀ d ∈ c.args, IsNumber d)
    (hNumeric : ∀ t ∈ f.type.params, t.isNumeric = true) (name : String) :
    (List.Forall₂ Fits c.args f.type.params ∧
      ∃ values, List.Forall₂ (fun p v => Receives p.1 p.2 v) (c.args.zip f.type.params) values ∧
        (Role.named name).values? c.args f.type.params = some values ∧
        enter x c.args (.named name f) =
          invoke x f values >>= fun results =>
            (Role.named name).conclude x.fixture.surroundings.reference c.args results) ∨
    (¬List.Forall₂ Fits c.args f.type.params ∧
      ∃ g, Refused name c.args f.type.params g ∧ (Role.named name).values? c.args f.type.params = none ∧
        enter x c.args (.named name f) = Job.fail g) := by
  by_cases hCount : c.args.length = f.type.params.length
  · rcases arguments_cases hCount hNumbers hNumeric name with
      ⟨hFits, values, hArguments, hReceived⟩ | ⟨hUnfit, g, hRefused, hArguments⟩
    · have hValues : (Role.named name).values? c.args f.type.params = some values := by
        rw [Role.values?, if_pos hCount, hArguments]
        rfl
      exact .inl ⟨hFits, values, hReceived, hValues, enter_fit rfl hValues⟩
    · refine .inr ⟨hUnfit, g, hRefused, ?_, ?_⟩
      · rw [Role.values?, if_pos hCount, hArguments]
        rfl
      · rw [enter, callNamed, if_neg (by simp [hCount]), hArguments]
        rfl
  · refine .inr ⟨fun hFits => hCount hFits.length_eq, _, .miscounted hCount, if_neg hCount, ?_⟩
    rw [enter, callNamed, if_pos (by simpa using hCount)]

/-- A call that names an exported function, on an open engine on which an instance is made. The function is entered
exactly if there are as many arguments as parameters and each of them fits. Then it is invoked on what its parameters
receive, place by place. Otherwise the call is refused, for the number of arguments or for the first that does not fit,
and nothing has happened since the instance was made but that the timer was started and cancelled. -/
theorem run_arguments (hOpen : j.host.isOpen = true) (hIdle : j.host.isTimed = false)
    (hLinked : c.linked j.host.surroundings = .ok l)
    (hMade : ending (instantiate l) (j.hosting (j.host.noted .compiled)) = (.ok x, k))
    (hAsked : c.entryPoint = some (name : Text)) (hName : name ≠ "")
    (hExported : x.functions.lookup name = some f)
    (hNumbers : ∀ d ∈ c.args, IsNumber d) (hNumeric : ∀ t ∈ f.type.params, t.isNumeric = true) :
    ((after c.run j).host.stages = .timerCancelled :: .entered f :: .timerStarted :: k.host.stages ↔
      List.Forall₂ Fits c.args f.type.params) ∧
    (List.Forall₂ Fits c.args f.type.params →
      ∃ values, List.Forall₂ (fun p v => Receives p.1 p.2 v) (c.args.zip f.type.params) values ∧
        ending c.run j = ending (answering (invoke x f values >>= fun results =>
          (Role.named name).conclude x.fixture.surroundings.reference c.args results)) k) ∧
    (¬List.Forall₂ Fits c.args f.type.params →
      ∃ g, Refused name c.args f.type.params g ∧
        ending c.run j = (.error g, k.hosting ((k.host.noted .timerStarted).noted .timerCancelled))) := by
  obtain ⟨hFixture, hFunctions, hLines⟩ := of_made (j := j.hosting (j.host.noted .compiled)) hIdle hMade
  have hRun := ending_run_made hOpen hLinked hMade
  have hStages := stages_instance (c := c) (j := k) hFixture hFunctions (names_linked hLinked) hLines
  rw [invoked?_eq hLinked hFunctions hAsked hName hExported] at hStages
  have hSame : after c.run j = after (x.job c) k := congrArg Prod.snd hRun
  rw [hAsked, choose_exported hName hExported] at hRun
  rw [hSame, hStages]
  rcases enter_named_cases (x := x) hNumbers hNumeric name with
    ⟨hFits, values, hReceived, hValues, hEnter⟩ | ⟨hUnfit, g, hRefused, hValues, hEnter⟩
  · rw [hValues]
    rw [hEnter] at hRun
    exact ⟨iff_of_true rfl hFits, fun _ => ⟨values, hReceived, hRun⟩, fun hUnfit => absurd hFits hUnfit⟩
  · rw [hValues]
    rw [hEnter] at hRun
    refine ⟨iff_of_false ?_ hUnfit, fun hFits => absurd hFits hUnfit, fun _ => ⟨g, hRefused, hRun⟩⟩
    intro hEntered
    have hLength := congrArg List.length hEntered
    simp [entry] at hLength

end

/-- A call of a function that takes an integer of 32 bits and a double. -/
def receiving (args : List Datum) : Call where
  code := none
  bytes := some [0, 97, 115, 109, 1, 0, 0, 0, 1, 6, 1, 96, 2, 127, 124, 0, 3, 2, 1, 0, 7, 5, 1, 1, 102, 0, 0,
    10, 4, 1, 2, 0, 11]
  entryPoint := some ("f" : Text)
  args := args

/-- The function receives an integer without the bits that are too many, and a double as it is; one argument alone is
refused. -/
theorem run_arguments_receiving :
    let j : Journal EngineState := ⟨{ surroundings := .small, steps := 9 }, [], []⟩
    let args : List Datum := [.integer (2 ^ 32 + 7), .real 1.5]
    (∃ x f k, ending (receiving args).run j = ending (answering (invoke x f [.i32 7, .f64 (1.5 : Float).toBits.toBitVec]
      >>= fun results => (Role.named "f").conclude x.fixture.surroundings.reference args results)) k) ∧
    (ending (receiving [.integer 7]).run j).1 =
      .error (.classified .evaluation "f expects 2 argument(s), got 1" (some argumentHint)) := by
  intro j args
  have hType : (((receiving []).linked .small).toOption.bind fun l =>
      (ending (instantiate l) (j.hosting (j.host.noted .compiled))).1.toOption.bind fun x =>
        (x.functions.lookup "f").map Callee.type) = some ⟨[.i32, .f64], []⟩ := by
    decide +kernel
  obtain ⟨l, hLinked, hType⟩ := Option.bind_eq_some_iff.mp hType
  obtain ⟨x, hInstance, hType⟩ := Option.bind_eq_some_iff.mp hType
  obtain ⟨f, hExported, hType⟩ := Option.map_eq_some_iff.mp hType
  have hMade : ending (instantiate l) (j.hosting (j.host.noted .compiled)) =
      (.ok x, (ending (instantiate l) (j.hosting (j.host.noted .compiled))).2) :=
    Prod.ext (eq_ok_of_toOption hInstance) rfl
  have hNumeric : ∀ t ∈ f.type.params, t.isNumeric = true := by
    rw [hType]
    decide
  have hProgram (args : List Datum) : (receiving args).linked .small = .ok l := eq_ok_of_toOption hLinked
  have hCall (args : List Datum) :=
    run_arguments (c := receiving args) (j := j) rfl rfl (hProgram args) hMade rfl (by decide) hExported
  constructor
  · have hNumbers : ∀ d ∈ args, IsNumber d := List.forall_mem_cons.mpr ⟨.integer _,
      List.forall_mem_singleton.mpr (.real _)⟩
    have hFits : List.Forall₂ Fits args f.type.params := by
      rw [hType]
      exact .cons nofun (.cons nofun .nil)
    obtain ⟨values, hReceived, hRun⟩ := (hCall args hNumbers hNumeric).2.1 hFits
    rw [hType] at hReceived
    obtain _ | ⟨hFirst, _ | ⟨hSecond, _ | _⟩⟩ := hReceived
    obtain ⟨⟨_⟩, hWrapped⟩ := hFirst
    obtain _ | ⟨⟨_⟩⟩ := hSecond
    obtain rfl := BitVec.eq_of_toInt_eq (y := 7#32) hWrapped
    exact ⟨x, f, _, hRun⟩
  · have hUnfit : ¬List.Forall₂ Fits [.integer 7] f.type.params := by
      rw [hType]
      exact fun hFits => nomatch hFits.length_eq
    obtain ⟨g, hRefused, hRun⟩ :=
      (hCall [.integer 7] (List.forall_mem_singleton.mpr (.integer 7)) hNumeric).2.2 hUnfit
    rw [hType] at hRefused
    rw [hRun]
    cases hRefused with
    | miscounted hCount => rfl
    | misfit hCount _ _ _ => cases hCount

end SnippetService.Wasm
