import SnippetService.Proofs.Execution.Answer
import SnippetService.Proofs.Execution.Factories
import SnippetService.Proofs.Wasm.Call
/-!
What becomes of an input to the executor of modules. Whether it is turned down, refused with a hint or compiled is told
first from the two texts alone; then the executor, which asks in three places, is shown to decide the same. Bytes that
are compiled are compiled whatever text comes with them, and beside the refusals only an import that the host does not
lend and a wrong number of arguments are answered with a hint.
-/
namespace SnippetService.Wasm

open Job

/-- What is made of an input before anything runs. -/
inductive Verdict where
  /-- There is nothing to run, and no engine is asked for. -/
  | rejected
  /-- There is nothing that could be compiled, and a hint says what to do instead. -/
  | refused (message hint : Text)
  /-- These bytes are compiled. -/
  | compiled (binary : Bytes)

/-- The verdict on a code and on what is submitted beside it as a module in base64. -/
def Verdict.of (code encoded : Option Text) : Verdict :=
  if isBlankText (code.getD "") = true ∧ encoded.getD "" = "" then .rejected
  else match Base64.decode (encoded.getD "") with
    | none => .refused base64Error base64Hint
    | some binary =>
      if binary = [] then
        if ("(module" : Text) <+: stripText (code.getD "") then .refused watError watHint
        else .refused textError textHint
      else if magic <+: binary then .compiled binary
      else .refused magicError magicHint

/-- The options carry this text as the module, or none. -/
def Submits (options : Options) (encoded : Option Text) : Prop :=
  (options.lookup "wasm_base64").getD .null = (encoded.map Datum.text).getD .null

section

variable {code encoded : Option Text} {options : Options}

theorem decode_empty : Base64.decode "" = some [] := rfl

theorem encodedOption_eq (hSubmits : Submits options encoded) :
    encodedOption options = if encoded.getD "" = "" then none else some (.text (encoded.getD "")) := by
  unfold Submits at hSubmits
  unfold encodedOption
  cases encoded with
  | none =>
      cases hLookup : options.lookup "wasm_base64" with
      | none => rfl
      | some d =>
          rw [hLookup] at hSubmits
          cases hSubmits
          rfl
  | some s =>
      cases hLookup : options.lookup "wasm_base64" with
      | none =>
          rw [hLookup] at hSubmits
          cases hSubmits
      | some d =>
          rw [hLookup] at hSubmits
          cases hSubmits
          cases s <;> rfl

theorem hasCode_eq (code : Option Text) : Executor.hasCode code = !isBlankText (code.getD "") := by
  cases code <;> rfl

/-- The executor turns down exactly the inputs that hold nothing. -/
theorem hasInput_iff (build : Job σ (Engine σ)) (hSubmits : Submits options encoded) :
    (executor build).hasInput code options = true ↔
      ¬(isBlankText (code.getD "") = true ∧ encoded.getD "" = "") := by
  change (Executor.hasCode code || (encodedOption options).isSome) = true ↔ _
  rw [hasCode_eq, encodedOption_eq hSubmits]
  split_ifs with hEmpty
  · simp only [hEmpty, Option.isSome_none, Bool.or_false, Bool.not_eq_true', and_true, Bool.not_eq_true]
  · simp only [hEmpty, Option.isSome_some, Bool.or_true, and_false, not_false_eq_true]

/-- What comes with a call is decoded and then classified. Without a module it is as if empty bytes had come. -/
theorem classified_eq (hSubmits : Submits options encoded) :
    ((encodedOption options).mapM decodeOption >>= classify code) =
      (decodeSubmission (encoded.getD "") >>= fun binary => classify code (some binary)) := by
  rw [encodedOption_eq hSubmits]
  by_cases hEmpty : encoded.getD "" = ""
  · rw [hEmpty]
    rfl
  · rw [if_neg hEmpty]
    change ((decodeSubmission (encoded.getD "")).map some >>= classify code) = _
    cases decodeSubmission (encoded.getD "") <;> rfl

theorem isWatText_iff (text : Text) : isWatText text = true ↔ ("(module" : Text) <+: stripText text := by
  rw [isWatText, List.isPrefixOf_iff_prefix]

/-- Bytes are classified in the order of the verdict. -/
theorem classify_some (code : Option Text) (binary : Bytes) :
    classify code (some binary) =
      if binary = [] then
        if ("(module" : Text) <+: stripText (code.getD "") then
          .error (.classified .load watError (some watHint))
        else .error (.classified .load textError (some textHint))
      else if magic <+: binary then .ok binary
      else .error (.classified .load magicError (some magicHint)) := by
  cases binary with
  | nil => simp only [classify, isWatText_iff, ↓reduceIte]
  | cons b rest => simp only [classify, List.isPrefixOf_iff_prefix, reduceCtorEq, ↓reduceIte]

/-- How an input with a verdict is taken: whether it is given at all, and what it is found to be. -/
inductive Verdict.Taken : Verdict → Bool → Except Failure Bytes → Prop where
  | rejected (found : Except Failure Bytes) : Taken .rejected false found
  | refused (message hint : Text) :
      Taken (.refused message hint) true (.error (.classified .load message (some hint)))
  | compiled (binary : Bytes) : Taken (.compiled binary) true (.ok binary)

/-- The executor takes an input as its verdict says. -/
theorem taken_verdict (code : Option Text) (build : Job σ (Engine σ)) (hSubmits : Submits options encoded) :
    (Verdict.of code encoded).Taken ((executor build).hasInput code options)
      ((encodedOption options).mapM decodeOption >>= classify code) := by
  rw [classified_eq hSubmits]
  unfold Verdict.of decodeSubmission
  by_cases hNothing : isBlankText (code.getD "") = true ∧ encoded.getD "" = ""
  · have hInput : (executor build).hasInput code options = false := by
      rw [← Bool.not_eq_true, hasInput_iff build hSubmits]
      exact not_not.mpr hNothing
    rw [if_pos hNothing, hInput]
    exact .rejected _
  · rw [if_neg hNothing, (hasInput_iff build hSubmits).mpr hNothing]
    cases Base64.decode (encoded.getD "") with
    | none => exact .refused base64Error base64Hint
    | some binary =>
        change Verdict.Taken _ true (classify code (some binary))
        rw [classify_some]
        dsimp only
        split_ifs
        · exact .refused watError watHint
        · exact .refused textError textHint
        · exact .compiled binary
        · exact .refused magicError magicHint

/-- What is refused is told why. -/
theorem message_of_refused {message hint : Text} (hVerdict : Verdict.of code encoded = .refused message hint) :
    orElseText message Executor.defaultFailure = message := by
  unfold Verdict.of at hVerdict
  split at hVerdict
  · cases hVerdict
  · split at hVerdict
    · cases hVerdict
      rfl
    · split_ifs at hVerdict <;> cases hVerdict <;> rfl

/-- With bytes that are decoded and not empty the code makes no difference. -/
theorem verdict_of_binary {binary : Bytes} (hDecode : Base64.decode (encoded.getD "") = some binary)
    (hSome : binary ≠ []) (code : Option Text) :
    Verdict.of code encoded =
      if magic <+: binary then .compiled binary else .refused magicError magicHint := by
  have hGiven : ¬(isBlankText (code.getD "") = true ∧ encoded.getD "" = "") := by
    rintro ⟨_, hEmpty⟩
    rw [hEmpty, decode_empty] at hDecode
    exact hSome (Option.some.inj hDecode).symm
  unfold Verdict.of
  rw [if_neg hGiven, hDecode]
  dsimp only
  rw [if_neg hSome]

/-- What is compiled is decided by the submitted module alone. -/
theorem verdict_compiled_iff {binary : Bytes} :
    Verdict.of code encoded = .compiled binary ↔
      Base64.decode (encoded.getD "") = some binary ∧ magic <+: binary := by
  constructor
  · intro hVerdict
    cases hDecode : Base64.decode (encoded.getD "") with
    | none =>
        simp only [Verdict.of, hDecode] at hVerdict
        split_ifs at hVerdict
    | some decoded =>
        by_cases hEmpty : decoded = []
        · simp only [Verdict.of, hDecode, hEmpty, ↓reduceIte] at hVerdict
          split_ifs at hVerdict
        · rw [verdict_of_binary hDecode hEmpty] at hVerdict
          split_ifs at hVerdict with hMagic
          cases hVerdict
          exact ⟨rfl, hMagic⟩
  · rintro ⟨hDecode, hMagic⟩
    have hSome : binary ≠ [] := by
      rintro rfl
      exact absurd (List.prefix_nil.mp hMagic) nofun
    rw [verdict_of_binary hDecode hSome, if_pos hMagic]

end

theorem composed_compiling (binary : Bytes) (entryPoint : Option Text) (args : List Datum) :
    Job.Composed (compiling binary entryPoint args) :=
  (composed_reach _).bind fun _ => Composed.host.bind fun _ => (Composed.ofExcept _).bind fun _ =>
    (composed_instantiate _).bind fun _ => (composed_timed (composed_enter _ _ _)).bind fun _ =>
      Composed.host.bind fun _ => .pure _

/-- A run of the executor on an open engine comes to what its input is found to be, and if that is bytes to what
becomes of them. The records make no difference to it. -/
theorem ending_run_open {k : Journal EngineState} (hOpen : k.host.isOpen = true)
    (build : Job EngineState (Engine EngineState)) (code : Option Text) (options : Options) :
    (ending ((executor build).run engine code options) k).1 =
      match (encodedOption options).mapM decodeOption >>= classify code with
      | .error f => .error f
      | .ok binary =>
        (ending (compiling binary (textOption options "entry_point") (argsOption options))
          ⟨k.host, [], []⟩).1 := by
  change (ending (Job.ofExcept ((encodedOption options).mapM decodeOption) >>= fun bytes =>
    engine.perform code (.binary bytes (textOption options "entry_point") (argsOption options))) k).1 = _
  generalize textOption options "entry_point" = entryPoint
  generalize argsOption options = args
  cases (encodedOption options).mapM decodeOption with
  | error f => rfl
  | ok bytes =>
      have hRun := ending_run (c := ⟨code, bytes, entryPoint, args⟩)
        (j := k.noted (.execute code (.binary bytes entryPoint args))) hOpen
      change (ending (engine.perform code (.binary bytes entryPoint args)) k).1 =
        match classify code bytes with
        | .error f => _
        | .ok binary => _
      rw [Engine.ending_perform]
      change (ending (Call.run ⟨code, bytes, entryPoint, args⟩) _).1 = _
      rw [hRun]
      cases classify code bytes with
      | error f => rfl
      | ok binary =>
          exact (composed_compiling binary entryPoint args).oblivious.end_eq
            (j := k.noted (.execute code (.binary bytes entryPoint args))) (k := ⟨k.host, [], []⟩) rfl

/-- The functions that the host lends, by module and name. -/
def lent : List (String × String) :=
  [("env", "print"), ("env", "print_str"), ("wasi_snapshot_preview1", "fd_write"),
    ("wasi_snapshot_preview1", "fd_close"), ("wasi_snapshot_preview1", "fd_seek"),
    ("wasi_snapshot_preview1", "proc_exit")]

/-- Whether an import is a function that the host lends. -/
def Import.IsLent (i : Import) : Prop := (i.module, i.name) ∈ lent ∧ ∃ t, i.kind = .function t

theorem named?_isSome_iff (module name : String) :
    (HostFunction.named? module name).isSome = true ↔ (module, name) ∈ lent := by
  simp only [HostFunction.named?, lent, beq_iff_eq, Bool.or_eq_true, List.mem_cons, Prod.mk.injEq,
    List.not_mem_nil, or_false]
  split_ifs <;> simp_all [or_assoc]

/-- The hints that are given for an input with a verdict, on an engine that is new. -/
inductive Hinted (s : EngineState) (entryPoint : Option Text) (args : List Datum) : Verdict → Text → Prop where
  /-- The input is refused. -/
  | refused (message hint : Text) : Hinted s entryPoint args (.refused message hint) hint
  /-- An import of the program is not lent. -/
  | imported {binary : Bytes} {p : Program} {i : Import} (hLoad : Program.load s.surroundings.bounds binary = .ok p)
      (hImport : i ∈ p.module.imports) (hUnlent : ¬i.IsLent) :
      Hinted s entryPoint args (.compiled binary) unsupportedImportHint
  /-- An instance is made, and the function that is asked for takes another number of arguments. -/
  | miscounted {binary : Bytes} {l : Linked} {x : Instance} {name : String} {c : Callee}
      (hLinked : linkedOf s.surroundings binary = .ok l) (hMade : (ending (instantiate l) ⟨s, [], []⟩).1 = .ok x)
      (hAsked : entryPoint = some (name : Text)) (hName : name ≠ "") (hExported : l.exports.lookup name = some c)
      (hCount : args.length ≠ c.type.params.length) :
      Hinted s entryPoint args (.compiled binary) argumentHint

section

variable {types : List FunctionType} {i : Import}

theorem isLent_of_callee_ok {c : Callee} (hCallee : i.callee types = .ok c) : i.IsLent := by
  obtain ⟨t, hKind⟩ := isFunction_of_callee_ok hCallee
  refine ⟨(named?_isSome_iff _ _).mp ?_, t, hKind⟩
  unfold Import.callee at hCallee
  split at hCallee
  · rename_i h _ hNamed _
    rw [hNamed]
    rfl
  · cases hCallee

/-- A function that is lent can be had if its type is there. -/
theorem not_isLent_of_callee_error {f : Failure} (hCallee : i.callee types = .error f)
    (hTypes : ∀ t, i.kind = .function t → t < types.length) :
    ¬i.IsLent ∧ f.hint? = some unsupportedImportHint := by
  unfold Import.callee at hCallee
  split at hCallee
  · rename_i h t hNamed hKind
    have hThere := hTypes t hKind
    rw [List.getElem?_eq_getElem hThere] at hCallee
    cases hCallee
  · rename_i hNone
    cases hCallee
    refine ⟨?_, rfl⟩
    rintro ⟨hMember, t, hKind⟩
    obtain ⟨h, hNamed⟩ := Option.isSome_iff_exists.mp ((named?_isSome_iff _ _).mpr hMember)
    exact hNone h t hNamed hKind

end

section

variable {bounds : Bounds} {binary : Bytes} {p : Program}

/-- A program that has been loaded has the types of the functions that it imports. -/
theorem importType_lt (hLoad : Program.load bounds binary = .ok p) {i : Import} (hImport : i ∈ p.module.imports)
    {t : Nat} (hKind : i.kind = .function t) : t < p.module.types.length := by
  have hValid := (load_ok hLoad).1
  simp only [Module.isValid, Bool.and_eq_true, List.all_eq_true] at hValid
  have hTypes : ∀ u ∈ p.module.functionTypes, decide (u < p.module.types.length) = true := by grind
  refine of_decide_eq_true (hTypes t ?_)
  rw [Module.functionTypes, List.mem_append, List.mem_filterMap]
  exact .inl ⟨i, hImport, by rw [hKind]⟩

/-- Where the host cannot lend what a program imports, the hint says so, and an import is indeed not lent. -/
theorem hostFunctions_error (hLoad : Program.load bounds binary = .ok p) {f : Failure}
    (hHost : p.module.hostFunctions = .error f) :
    f.hint? = some unsupportedImportHint ∧ ∃ i ∈ p.module.imports, ¬i.IsLent := by
  obtain ⟨before, i, after, hImports, -, hCallee⟩ := split_of_mapM_error hHost
  have hImport : i ∈ p.module.imports := by
    rw [hImports]
    exact List.mem_append_right before List.mem_cons_self
  obtain ⟨hUnlent, hHint⟩ := not_isLent_of_callee_error hCallee fun t => importType_lt hLoad hImport
  exact ⟨hHint, i, hImport, hUnlent⟩

theorem hostFunctions_ok {m : Module} {host : List Callee} (hHost : m.hostFunctions = .ok host) :
    ∀ i ∈ m.imports, i.IsLent := by
  have hFound := (forall₂_of_mapM_ok hHost).imp fun _ _ hCallee => And.intro (isLent_of_callee_ok hCallee) hCallee
  exact ((List.forall₂_and_left _ _).mp hFound).1

end

/-- The hint of an end: that of the result, or that of the failure. -/
def hintOf : Except Failure RunResult → Option Text
  | .ok r => r.hint
  | .error f => f.hint?

/-- An end that is answered has the hint of its answer. -/
theorem hintOf_of_answered {x : Executor σ} {r : Except Failure RunResult} {result : RunResult} {elapsed : Nat}
    (hAnswer : (x.answerOf r).map (·.timed elapsed) = .ok result) : hintOf r = result.hint := by
  rcases r with (_ | _ | _) | _ <;> cases hAnswer <;> rfl

theorem hintOf_of_ends {r : Except Failure RunResult}
    (hEnds : Ends Unhinted (fun result => result.hint = none) r) : hintOf r = none := by
  cases r with
  | ok result => exact hEnds
  | error f => exact hEnds.hint?_eq_none

/-- A named function is miscounted if it is asked for, exported and takes another number of arguments. -/
theorem isMiscounted_choose_iff {functions : List (String × Callee)} {entryPoint : Option Text}
    {args : List Datum} :
    (EntryPoint.choose functions entryPoint).IsMiscounted args ↔
      ∃ (name : String) (c : Callee), entryPoint = some (name : Text) ∧ name ≠ "" ∧
        functions.lookup name = some c ∧ args.length ≠ c.type.params.length := by
  cases hAsked : asked? functions entryPoint with
  | none =>
      refine iff_of_false ?_ ?_
      · unfold asked? at hAsked
        unfold EntryPoint.choose
        rw [hAsked]
        dsimp only
        split
        · exact id
        · split <;> exact id
      · rintro ⟨name, c, rfl, hName, hLookup, _⟩
        simp [asked?, Option.filter, hName, hLookup] at hAsked
  | some found =>
      rcases found with ⟨name, c⟩
      have hChosen : EntryPoint.choose functions entryPoint = .named name c := by
        unfold asked? at hAsked
        unfold EntryPoint.choose
        rw [hAsked]
      rw [hChosen]
      simp only [asked?, Option.bind_eq_some_iff, Option.filter_eq_some_iff, Option.map_eq_some_iff,
        Prod.mk.injEq] at hAsked
      obtain ⟨asked, ⟨text, ⟨rfl, hName⟩, hPlain⟩, d, hLookup, rfl, rfl⟩ := hAsked
      obtain rfl := Text.plain?_eq_some_iff.mp hPlain
      have hNotEmpty : asked ≠ "" := by
        rintro rfl
        cases hName
      constructor
      · exact fun hCount => ⟨asked, d, rfl, hNotEmpty, hLookup, hCount⟩
      · rintro ⟨other, e, hSame, _, hOther, hCount⟩
        obtain rfl := Text.ofString_inj.mp (Option.some.inj hSame)
        rw [hLookup] at hOther
        cases hOther
        exact hCount

theorem ending_enter_miscounted (x : Instance) {args : List Datum} {e : EntryPoint} (hCount : e.IsMiscounted args)
    (k : Journal EngineState) :
    ∃ f, ending (enter x args e) k = (.error f, k) ∧ f.hint? = some argumentHint := by
  cases e with
  | named name c =>
      rw [enter, callNamed, if_pos (bne_iff_ne.mpr hCount)]
      exact ⟨_, rfl, rfl⟩
  | _ => exact hCount.elim

section

variable {s : EngineState} {binary : Bytes} {entryPoint : Option Text} {args : List Datum} {hint : Text}

/-- Bytes that cannot be linked are told with a hint if an import is not lent. -/
theorem hint_linkedOf_error {f : Failure} (hLinked : linkedOf s.surroundings binary = .error f) :
    f.hint? = some hint ↔ Hinted s entryPoint args (.compiled binary) hint := by
  have hNotLinked (l : Linked) : linkedOf s.surroundings binary ≠ .ok l := by
    rw [hLinked]
    nofun
  unfold linkedOf at hLinked
  cases hLoad : Program.load s.surroundings.bounds binary with
  | error fault =>
      rw [hLoad] at hLinked
      cases hLinked
      refine iff_of_false nofun ?_
      rintro (_ | ⟨hOther, _, _⟩ | ⟨hOther, _, _, _, _, _⟩)
      · rw [hLoad] at hOther
        cases hOther
      · exact hNotLinked _ hOther
  | ok p =>
      rw [hLoad] at hLinked
      dsimp only at hLinked
      cases hHost : p.module.hostFunctions with
      | ok host =>
          rw [hHost] at hLinked
          cases hLinked
      | error g =>
          rw [hHost] at hLinked
          cases hLinked
          obtain ⟨hHint, i, hImport, hUnlent⟩ := hostFunctions_error hLoad hHost
          rw [hHint]
          constructor
          · rintro ⟨⟩
            exact .imported hLoad hImport hUnlent
          · rintro (_ | _ | ⟨hOther, _, _, _, _, _⟩)
            · rfl
            · exact absurd hOther (hNotLinked _)

/-- What a linked program imports is lent. -/
theorem isLent_of_linkedOf {l : Linked} (hLinked : linkedOf s.surroundings binary = .ok l) {p : Program}
    (hLoad : Program.load s.surroundings.bounds binary = .ok p) : ∀ i ∈ p.module.imports, i.IsLent := by
  unfold linkedOf at hLinked
  rw [hLoad] at hLinked
  dsimp only at hLinked
  cases hHost : p.module.hostFunctions with
  | error f =>
      rw [hHost] at hLinked
      cases hLinked
  | ok host => exact hostFunctions_ok hHost

/-- Once a program is linked, the only hint is about the number of arguments. -/
theorem hinted_linked_iff {l : Linked} (hLinked : linkedOf s.surroundings binary = .ok l) :
    Hinted s entryPoint args (.compiled binary) hint ↔
      hint = argumentHint ∧ ∃ x, (ending (instantiate l) ⟨s, [], []⟩).1 = .ok x ∧
        (EntryPoint.choose x.functions entryPoint).IsMiscounted args := by
  have hFunctions (x : Instance) (hMade : (ending (instantiate l) ⟨s, [], []⟩).1 = .ok x) :
      x.functions = l.exports := by
    have hMake := endsIn_instantiate l ⟨s, [], []⟩
    rw [hMade] at hMake
    exact hMake
  constructor
  · rintro (_ | ⟨hLoad, hImport, hUnlent⟩ | ⟨hOther, hMade, hAsked, hName, hExported, hDiffers⟩)
    · exact absurd (isLent_of_linkedOf hLinked hLoad _ hImport) hUnlent
    · cases hLinked.symm.trans hOther
      rw [← hFunctions _ hMade] at hExported
      exact ⟨rfl, _, hMade, isMiscounted_choose_iff.mpr ⟨_, _, hAsked, hName, hExported, hDiffers⟩⟩
  · rintro ⟨rfl, x, hMade, hCount⟩
    obtain ⟨name, c, hAsked, hName, hExported, hDiffers⟩ := isMiscounted_choose_iff.mp hCount
    rw [hFunctions x hMade] at hExported
    exact .miscounted hLinked hMade hAsked hName hExported hDiffers

/-- A linked program is told with a hint if an instance is made and the arguments are miscounted. -/
theorem hintOf_job {l : Linked} {c : Call} {k : Journal EngineState} :
    hintOf (ending (l.job c) k).1 = some hint ↔
      hint = argumentHint ∧ ∃ x, (ending (instantiate l) k).1 = .ok x ∧
        (EntryPoint.choose x.functions c.entryPoint).IsMiscounted c.args := by
  have hMake := endsIn_instantiate l k
  rw [Linked.job, ending_bind]
  rcases hInstance : ending (instantiate l) k with ⟨f | x, m⟩
  · rw [hInstance] at hMake
    change f.hint? = some hint ↔ _
    rw [hMake.hint?_eq_none]
    constructor
    · rintro ⟨⟩
    · rintro ⟨_, x, hMade, _⟩
      cases hMade
  · by_cases hCount : (EntryPoint.choose x.functions c.entryPoint).IsMiscounted c.args
    · obtain ⟨f, hEnter, hHint⟩ := ending_enter_miscounted x hCount (m.hosting (m.host.noted .timerStarted))
      dsimp only
      rw [Instance.job, ending_bind, ending_timed, hEnter]
      change f.hint? = some hint ↔ _
      rw [hHint]
      constructor
      · rintro ⟨⟩
        exact ⟨rfl, x, rfl, hCount⟩
      · rintro ⟨rfl, _⟩
        rfl
    · have hEnds : (x.job c).EndsIn Unhinted fun result => result.hint = none :=
        (endsIn_timed (unhinted_enter x hCount)).bind fun _ _ => EndsIn.host.bind fun _ _ => .pure rfl
      dsimp only
      rw [hintOf_of_ends (hEnds m)]
      constructor
      · rintro ⟨⟩
      · rintro ⟨_, y, hMade, hOther⟩
        cases hMade
        exact absurd hOther hCount

/-- What becomes of bytes that are compiled is told with a hint in the two cases only. -/
theorem hintOf_compiling (hIdle : s.isTimed = false) :
    hintOf (ending (compiling binary entryPoint args) ⟨s, [], []⟩).1 = some hint ↔
      Hinted s entryPoint args (.compiled binary) hint := by
  unfold compiling
  rw [ending_bind, ending_reach]
  dsimp only
  rw [ending_bind, ending_host]
  dsimp only [Journal.hosting_host, EngineState.surroundings_noted]
  rw [ending_bind, ending_ofExcept]
  cases hLinked : linkedOf s.surroundings binary with
  | error f => exact hint_linkedOf_error hLinked
  | ok l =>
      have hMade (x : Instance) := made_compiled_iff (l := l) (j := ⟨s, [], []⟩) hIdle x
      simp only [hinted_linked_iff hLinked, ← hMade]
      exact hintOf_job

end

/-- The executor answers an input as its verdict says. -/
theorem ending_execute_verdict {encoded : Option Text} {options : Options} (hSubmits : Submits options encoded)
    (code : Option Text) {j : Journal EngineState} (hOpen : j.host.isOpen = true) (elapsed : Nat) :
    let x : Executor EngineState := executor (pure engine)
    match Verdict.of code encoded with
    | .rejected => ending (x.execute elapsed code options) j = (.ok (.failure runtime "No code provided" none), j)
    | .refused message hint => (ending (x.execute elapsed code options) j).1 =
      .ok ((RunResult.failure runtime message (some hint)).timed elapsed)
    | .compiled binary => (ending (x.execute elapsed code options) j).1 =
      (x.answerOf (ending (compiling binary (textOption options "entry_point") (argsOption options))
        ⟨j.host, [], []⟩).1).map (·.timed elapsed) := by
  intro x
  have hTaken := taken_verdict code (pure engine : EngineJob (Engine EngineState)) hSubmits
  have hAnswer (hInput : x.hasInput code options = true) :
      (ending (x.execute elapsed code options) j).1 =
        (x.answerOf (ending (x.run engine code options) (j.noted .build)).1).map (·.timed elapsed) :=
    Executor.ending_execute_parts hInput rfl
  have hRun := ending_run_open (k := j.noted .build) hOpen (pure engine) code options
  generalize hVerdict : Verdict.of code encoded = verdict at hTaken
  generalize hInput : (executor (pure engine : EngineJob (Engine EngineState))).hasInput code options = given
    at hTaken
  generalize (encodedOption options).mapM decodeOption >>= classify code = found at hTaken hRun
  cases hTaken with
  | rejected => exact Executor.ending_execute_rejected hInput j
  | refused message hint =>
      dsimp only
      rw [hAnswer hInput, hRun]
      have hMessage := message_of_refused hVerdict
      change Except.ok ((RunResult.failure runtime (orElseText message Executor.defaultFailure) (some hint)).timed
        elapsed) = _
      rw [hMessage]
  | compiled binary =>
      dsimp only
      rw [hAnswer hInput, hRun]
      rfl

/-- The answer to an input is decided by its verdict. What is rejected has no engine; what is refused is answered with
its hint; bytes are compiled exactly if they are decoded from the submission and bear the mark, and then the code makes
no difference. A hint is given for a refusal, for an import that is not lent, and for a wrong number of arguments, and
for nothing else. -/
theorem execute_classified {encoded : Option Text} {options : Options} (hSubmits : Submits options encoded)
    (code : Option Text) (limit : Option Nat) (surroundings : Surroundings) (steps elapsed : Nat)
    (logs : List LogRecord) (events : List EngineEvent) :
    let s : EngineState := { memoryLimit := limit, surroundings := surroundings, steps := steps }
    let entryPoint := textOption options "entry_point"
    let args := argsOption options
    let x : Executor EngineState := executor (pure engine)
    let call := fun text => ending (x.execute elapsed text options) ⟨s, logs, events⟩
    (match Verdict.of code encoded with
      | .rejected => call code = (.ok (.failure runtime "No code provided" none), ⟨s, logs, events⟩)
      | .refused message hint =>
        (call code).1 = .ok ((RunResult.failure runtime message (some hint)).timed elapsed)
      | .compiled binary => (call code).1 =
        (x.answerOf (ending (compiling binary entryPoint args) ⟨s, [], []⟩).1).map (·.timed elapsed)) ∧
    (∀ binary, Verdict.of code encoded = .compiled binary ↔
      Base64.decode (encoded.getD "") = some binary ∧ magic <+: binary) ∧
    (∀ binary, Base64.decode (encoded.getD "") = some binary → binary ≠ [] →
      ∀ other, (call other).1 = (call code).1) ∧
    ∀ r, (call code).1 = .ok r →
      ∀ hint, r.hint = some hint ↔ Hinted s entryPoint args (Verdict.of code encoded) hint := by
  intro s entryPoint args x call
  have hAnswer (text : Option Text) :=
    ending_execute_verdict hSubmits text (j := ⟨s, logs, events⟩) rfl elapsed
  refine ⟨hAnswer code, fun binary => verdict_compiled_iff, ?codes, ?hints⟩
  case codes =>
    intro binary hDecode hSome other
    have hOne := hAnswer code
    have hOther := hAnswer other
    rw [verdict_of_binary hDecode hSome] at hOne hOther
    split_ifs at hOne hOther
    · exact hOther.trans hOne.symm
    · exact hOther.trans hOne.symm
  case hints =>
    intro r hResult hint
    have hOne := hAnswer code
    cases hVerdict : Verdict.of code encoded with
    | rejected =>
        rw [hVerdict] at hOne
        cases (congrArg Prod.fst hOne).symm.trans hResult
        exact iff_of_false nofun nofun
    | refused message expected =>
        rw [hVerdict] at hOne
        cases hOne.symm.trans hResult
        constructor
        · rintro ⟨⟩
          exact .refused message hint
        · rintro ⟨⟩
          rfl
    | compiled binary =>
        rw [hVerdict] at hOne
        rw [← hintOf_of_answered (hOne.symm.trans hResult)]
        exact hintOf_compiling rfl

/-- The options of a call that submits a text in base64. -/
def submitting (encoded : Text) : Options := [("wasm_base64", .text encoded)]

/-- A module in the text format is refused, also where blanks come with it that stand for no bytes. Bytes without the
mark are refused whatever comes with them. -/
theorem execute_classified_text :
    let s : EngineState := { surroundings := .small, steps := 0 }
    let x : Executor EngineState := executor (pure engine)
    let call := fun text encoded => (ending (x.execute 7 text (submitting encoded)) ⟨s, [], []⟩).1
    call (some "\n(module)") " " = .ok ((RunResult.failure runtime watError (some watHint)).timed 7) ∧
    call (some "1") "AAAA" = call (some "(module)") "AAAA" := by
  intro s x call
  have hBlank : Submits (submitting " ") (some " ") := rfl
  have hZeros : Submits (submitting "AAAA") (some "AAAA") := rfl
  constructor
  · exact (execute_classified hBlank (some "\n(module)") none .small 0 7 [] []).1
  · exact (execute_classified hZeros (some "(module)") none .small 0 7 [] []).2.2.1 [0, 0, 0] (by decide)
      (by decide) (some "1")

end SnippetService.Wasm
