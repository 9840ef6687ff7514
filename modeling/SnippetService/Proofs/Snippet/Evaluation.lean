import SnippetService.Proofs.Execution.Answerable
import SnippetService.Proofs.Snippet.Outcome
import SnippetService.Snippet.Engine
/-!
What the evaluation of a snippet comes to, told by the answers of its context alone. The engine does no more than
ask the context and make a result of the outcome; if the context fails only in ways that can be answered, so does
the engine.
-/
namespace SnippetService.Snippet

open Job

variable {κ : Type}

/-- The context after the console is installed. -/
def installed (access : ContextAccess κ) (c : κ) : κ := (access.eval .install consoleText c).2

/-- The outcome of an abort before the console is put over it. -/
def abortOutcome (f : Failure) : List (Text × Datum) :=
  [("ok", .boolean false), ("error", if f.text.isEmpty then .null else .text f.text)]

/-- What reading the console in a context comes to. -/
def consoleAt (access : ContextAccess κ) (c : κ) : Except Failure Datum :=
  match (access.eval .readConsole readerText c).1 with
  | .ok answer => parsed answer
  | .error f => if isAbort f then .ok (.record [("logs", .list []), ("errors", .list [])]) else .error f

/-- The outcome of a snippet in a context with the console installed. -/
def outcomeAt (access : ContextAccess κ) (code : Text) (c : κ) : Except Failure Datum :=
  match access.eval .evaluate (harnessText code) c with
  | (.ok answer, _) => parsed answer
  | (.error f, stopped) =>
    if isAbort f then do
      let fields ← updates (← consoleAt access stopped)
      return .record (overlay (abortOutcome f) fields)
    else .error f

/-- The result that is made of an outcome. Only a record has fields that can be asked for. -/
def resultOfOutcome (outcome : Datum) : Except Failure RunResult :=
  match outcome with
  | .record fields =>
    buildResult (.record fields) (linesOf (.record fields) "logs") (linesOf (.record fields) "errors")
  | d => .error (.unexpected .missingAttribute ("'" ++ d.className ++ "' object has no attribute 'get'"))

/-- The end of a run on a session that is open. -/
def endAt (access : ContextAccess κ) (code : Option Text) (c : κ) : Except Failure RunResult :=
  match (access.eval .install consoleText c).1 with
  | .ok _ => (outcomeAt access (code.getD "") (installed access c)).bind resultOfOutcome
  | .error f => .error f

theorem ending_evaluate (access : ContextAccess κ) (purpose : EvalPurpose) (text : String)
    (j : Journal (Session κ)) :
    ending (evaluate access purpose text) j =
      ((access.eval purpose text j.host.context).1,
        j.hosting ⟨(access.eval purpose text j.host.context).2, j.host.isOpen⟩) := by
  simp [evaluate]

theorem ending_readConsole (access : ContextAccess κ) (j : Journal (Session κ)) :
    (ending (readConsole access) j).1 = consoleAt access j.host.context := by
  simp only [readConsole, consoleAt, ending_bind, ending_outcome, ending_evaluate]
  cases (access.eval .readConsole readerText j.host.context).1 with
  | ok answer => simp
  | error f => cases hAbort : isAbort f <;> simp [hAbort, Except.map]

theorem ending_outcomeOf (access : ContextAccess κ) (code : Text) (j : Journal (Session κ)) :
    (ending (outcomeOf access code) j).1 = outcomeAt access code j.host.context := by
  rcases hEval : access.eval .evaluate (harnessText code) j.host.context with ⟨r, stopped⟩
  simp only [outcomeOf, outcomeAt, ending_bind, ending_outcome, ending_evaluate, hEval]
  cases r with
  | ok answer => simp
  | error f =>
      cases hAbort : isAbort f with
      | false => simp [hAbort]
      | true =>
          simp only [hAbort, ↓reduceIte, ending_bind, ending_log]
          generalize hNext : (after (evaluate access .evaluate (harnessText code)) j).logged _ = k
          have hContext : k.host.context = stopped := by
            rw [← hNext, Journal.logged_host, after, ending_evaluate, hEval]
            rfl
          have hConsole := ending_readConsole access k
          rw [hContext] at hConsole
          rw [← hConsole]
          rcases ending (readConsole access) k with ⟨console, l⟩
          cases console with
          | error g => rfl
          | ok d =>
              change _ = (updates d).bind fun fields =>
                Except.ok (Datum.record (overlay (abortOutcome f) fields))
              simp only [ending_ofExcept]
              cases updates d <;> rfl

/-- A run on an open session comes to what its context answers. -/
theorem ending_execute {access : ContextAccess κ} {code : Option Text} {j : Journal (Session κ)}
    (hOpen : j.host.isOpen = true) :
    (ending (execute access code) j).1 = endAt access code j.host.context := by
  simp only [execute, endAt, ending_bind, ending_host, hOpen, ending_evaluate, Bool.not_true,
    Bool.false_eq_true, ↓reduceIte]
  cases (access.eval .install consoleText j.host.context).1 with
  | error f => rfl
  | ok a =>
      simp only [ending_log]
      generalize hNext : Journal.logged _ _ = k
      have hContext : k.host.context = installed access j.host.context := by rw [← hNext]; rfl
      have hOutcome := ending_outcomeOf access (code.getD "") k
      rw [hContext] at hOutcome
      rw [← hOutcome]
      rcases ending (outcomeOf access (code.getD "")) k with ⟨outcome, l⟩
      cases outcome with
      | error f => rfl
      | ok d => cases d <;> simp [Except.bind, resultOfOutcome]

/-- A failure that the engine itself comes to. It can be answered, and it is no abort of an evaluation. -/
def IsOwn (f : Failure) : Prop := f.isAnswerable = true ∧ isAbort f = false

/-- A value, or a failure that the engine itself comes to. -/
abbrev Owned {α : Type} (r : Except Failure α) : Prop := Ends IsOwn (fun _ => True) r

theorem Owned.answerable {α : Type} {r : Except Failure α} (hOwned : Owned r) : Answerable r :=
  Ends.mono hOwned (fun _ hOwn => hOwn.1) fun _ _ => trivial

theorem owned_parsed (answer : Option Text) : Owned (parsed answer) := by
  unfold parsed
  split
  · exact ⟨rfl, rfl⟩
  · split
    · exact trivial
    · refine ⟨rfl, ?_⟩
      split <;> rfl

theorem owned_fieldOf (i : Nat) (item : Datum) : Owned (fieldOf i item) := by
  unfold fieldOf
  split
  · exact ⟨rfl, rfl⟩
  · split
    · exact trivial
    · exact ⟨rfl, rfl⟩
    · exact ⟨rfl, rfl⟩
    · exact trivial
  · exact ⟨rfl, rfl⟩

theorem owned_fieldsFrom (items : List Datum) (i : Nat) : Owned (fieldsFrom i items) := by
  induction items generalizing i with
  | nil => exact trivial
  | cons item rest ih =>
      exact (owned_fieldOf i item).bind fun _ _ => (ih (i + 1)).bind fun _ _ => trivial

theorem owned_updates (d : Datum) : Owned (updates d) := by
  unfold updates
  split
  · exact trivial
  · split
    · exact owned_fieldsFrom _ 0
    · exact ⟨rfl, rfl⟩

theorem owned_textsFrom (ds : List Datum) (i : Nat) : Owned (textsFrom i ds) := by
  induction ds generalizing i with
  | nil => exact trivial
  | cons d rest ih =>
      cases d with
      | text s => exact (ih (i + 1)).map fun _ _ => trivial
      | _ => exact ⟨rfl, rfl⟩

theorem owned_joined (lines : Datum) : Owned (joined lines) := by
  cases lines with
  | list items => exact (owned_textsFrom items 0).map fun _ _ => trivial
  | text s => exact trivial
  | record fields => exact trivial
  | _ => exact ⟨rfl, rfl⟩

theorem owned_outputText (logs value : Datum) : Owned (outputText logs value) := by
  unfold outputText
  split
  · dsimp only
    split
    · exact (owned_joined logs).bind fun _ _ => trivial
    · exact trivial
  · dsimp only
    split
    · exact (owned_joined logs).bind fun _ _ => trivial
    · exact trivial

theorem owned_errorValue (errors message : Datum) : Owned (errorValue errors message) := by
  unfold errorValue
  split
  · exact trivial
  · refine (owned_joined errors).bind fun lines _ => ?_
    split
    · exact trivial
    · split
      · exact trivial
      · exact ⟨rfl, rfl⟩

theorem owned_buildResult (outcome logs errors : Datum) : Owned (buildResult outcome logs errors) := by
  unfold buildResult
  dsimp only
  split
  · exact (owned_outputText _ _).bind fun _ _ => (owned_errorValue _ _).bind fun _ _ => trivial
  · exact (owned_errorValue _ _).bind fun _ _ => trivial

theorem owned_resultOfOutcome (outcome : Datum) : Owned (resultOfOutcome outcome) := by
  cases outcome with
  | record fields => exact owned_buildResult _ _ _
  | _ => exact ⟨rfl, rfl⟩

/-- A context that fails only in ways that can be answered. -/
def ContextAccess.IsAnswerable (access : ContextAccess κ) : Prop :=
  ∀ purpose text c, Answerable (access.eval purpose text c).1

theorem answerable_consoleAt {access : ContextAccess κ} (hAccess : access.IsAnswerable) (c : κ) :
    Answerable (consoleAt access c) := by
  have hRead := hAccess .readConsole readerText c
  unfold consoleAt
  split
  · exact (owned_parsed _).answerable
  · rename_i f hError
    rw [hError] at hRead
    split
    · exact trivial
    · exact hRead

theorem answerable_outcomeAt {access : ContextAccess κ} (hAccess : access.IsAnswerable)
    (code : Text) (c : κ) : Answerable (outcomeAt access code c) := by
  have hEval := hAccess .evaluate (harnessText code) c
  unfold outcomeAt
  split
  · exact (owned_parsed _).answerable
  · rename_i f stopped hError
    rw [hError] at hEval
    split
    · exact (answerable_consoleAt hAccess stopped).bind fun d _ =>
        (owned_updates d).answerable.bind fun _ _ => trivial
    · exact hEval

theorem isAnswerable_execute {access : ContextAccess κ} (hAccess : access.IsAnswerable)
    (code : Option Text) : (execute access code).IsAnswerable := by
  intro j
  cases hOpen : j.host.isOpen with
  | false => simp [execute, hOpen, Meets, Failure.isAnswerable]
  | true =>
      rw [ending_execute hOpen, endAt]
      have hInstall := hAccess .install consoleText j.host.context
      split
      · exact (answerable_outcomeAt hAccess _ _).bind fun d _ => (owned_resultOfOutcome d).answerable
      · rename_i f hError
        rw [hError] at hInstall
        exact hInstall

end SnippetService.Snippet
