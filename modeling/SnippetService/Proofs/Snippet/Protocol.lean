import SnippetService.Proofs.Snippet.Abort
/-!
The order in which an engine asks its context, and what each answer leads to. The acts on a context are noted in the
context itself. Every run installs the console first, evaluates the snippet if that went well, and reads the console
only if the evaluation was aborted. What else is raised on the way ends the run and leaves the session open, so that
the next run begins again with the console.
-/
namespace SnippetService.Snippet

open Job

variable {κ : Type}

/-- An act on a context. -/
inductive Act where
  | eval (purpose : EvalPurpose) (text : String)
  | collect
  deriving DecidableEq

namespace Act

def install : Act := .eval .install consoleText

def evaluate (code : Text) : Act := .eval .evaluate (harnessText code)

def readConsole : Act := .eval .readConsole readerText

end Act

/-- A context, with all that it has been asked so far. -/
structure Traced (κ : Type) where
  context : κ
  acts : List Act := []

namespace Traced

def noted (w : Traced κ) (a : Act) (c : κ) : Traced κ := ⟨c, w.acts ++ [a]⟩

end Traced

/-- An access on which every act is noted, also when it fails. -/
def ContextAccess.traced (access : ContextAccess κ) : ContextAccess (Traced κ) where
  eval purpose text w :=
    ((access.eval purpose text w.context).1, w.noted (.eval purpose text) (access.eval purpose text w.context).2)
  collect w := w.noted .collect (access.collect w.context)

/-- What an engine is told to do. -/
inductive Order where
  | execute (code : Text)
  | dispose

/-- The journal that an order leaves, however it ends. -/
def Order.left (access : ContextAccess κ) (o : Order) (j : Journal (Session κ)) : Journal (Session κ) :=
  match o with
  | .execute code => after ((engine access).execute (some code) .nothing) j
  | .dispose => after (engine access).dispose j

/-- The answer to a snippet. -/
def answerTo (access : ContextAccess κ) (code : Text) (j : Journal (Session κ)) : Except Failure RunResult :=
  (ending ((engine access).execute (some code) .nothing) j).1

/-- The journal after orders one after another. What one of them raises does not keep the next from being given. -/
def serve (access : ContextAccess κ) : List Order → Journal (Session κ) → Journal (Session κ)
  | [], j => j
  | o :: rest, j => serve access rest (o.left access j)

/-- An answer that is JSON text for a value. -/
def Reads (answer : Option Text) (d : Datum) : Prop := ∃ s, answer = some s ∧ Json.read s = .ok d

/-- The evaluation of a snippet, and the context that it leaves. -/
def evaluated (access : ContextAccess κ) (code : Text) (c : κ) : Except Failure (Option Text) × κ :=
  access.eval .evaluate (harnessText code) (installed access c)

/-- What the reader of the console answers after the evaluation of a snippet. -/
def reread (access : ContextAccess κ) (code : Text) (c : κ) : Except Failure (Option Text) :=
  (access.eval .readConsole readerText (evaluated access code c).2).1

/-- The evaluation of a snippet is aborted, in a context in which the console was installed. -/
structure Stops (access : ContextAccess κ) (code : Text) (c : κ) (f : Failure) : Prop where
  installs : ∃ a, (access.eval .install consoleText c).1 = .ok a
  raises : (evaluated access code c).1 = .error f
  isAbort : isAbort f = true

/-- The evaluation of a snippet gives an answer, in a context in which the console was installed. -/
structure Gives (access : ContextAccess κ) (code : Text) (c : κ) (answer : Option Text) : Prop where
  installs : ∃ a, (access.eval .install consoleText c).1 = .ok a
  gives : (evaluated access code c).1 = .ok answer

/-- The courses that a run can take, by what its context answers: what the run comes to, and what it has asked. -/
inductive Course (access : ContextAccess κ) (code : Text) (c : κ) : Except Failure RunResult → List Act → Prop where
  /-- The console cannot be installed. -/
  | uninstalled {f : Failure} (raises : (access.eval .install consoleText c).1 = .error f) :
      Course access code c (.error f) [.install]
  /-- The evaluation raises something that is no abort. -/
  | raised {f : Failure} (installs : ∃ a, (access.eval .install consoleText c).1 = .ok a)
      (raises : (evaluated access code c).1 = .error f) (other : isAbort f = false) :
      Course access code c (.error f) [.install, .evaluate code]
  /-- The answer is no JSON text. -/
  | unreadable {answer : Option Text} {f : Failure} (gives : Gives access code c answer)
      (unread : ∀ d, ¬Reads answer d) (fails : parsed answer = .error f) :
      Course access code c (.error f) [.install, .evaluate code]
  /-- The answer is no record. -/
  | shapeless {answer : Option Text} {d : Datum} (gives : Gives access code c answer) (reads : Reads answer d)
      (shape : ∀ fields, d ≠ .record fields) :
      Course access code c
        (.error (.unexpected .missingAttribute ("'" ++ d.className ++ "' object has no attribute 'get'")))
        [.install, .evaluate code]
  | answered {answer : Option Text} {fields : List (Text × Datum)} (gives : Gives access code c answer)
      (reads : Reads answer (.record fields)) :
      Course access code c
        (buildResult (.record fields) (linesOf (.record fields) "logs") (linesOf (.record fields) "errors"))
        [.install, .evaluate code]
  /-- The console cannot be read after an abort, and the abort is all that is told. -/
  | unheard {f g : Failure} (stops : Stops access code c f) (raises : reread access code c = .error g)
      (abort : isAbort g = true) :
      Course access code c
        (.ok
          { success := false
            output := none
            error := .text (if f.text = "" then "Unknown error" else f.text)
            runtime := "QuickJS (Sandboxed)" })
        [.install, .evaluate code, .readConsole]
  /-- The reader of the console raises something that is no abort. -/
  | broken {f g : Failure} (stops : Stops access code c f) (raises : reread access code c = .error g)
      (other : isAbort g = false) : Course access code c (.error g) [.install, .evaluate code, .readConsole]
  /-- The answer of the reader is no JSON text. -/
  | garbled {f g : Failure} {answer : Option Text} (stops : Stops access code c f)
      (gives : reread access code c = .ok answer) (unread : ∀ d, ¬Reads answer d) (fails : parsed answer = .error g) :
      Course access code c (.error g) [.install, .evaluate code, .readConsole]
  /-- What is read of the console is put over the outcome of the abort. -/
  | recovered {f : Failure} {answer : Option Text} {d : Datum} (stops : Stops access code c f)
      (gives : reread access code c = .ok answer) (reads : Reads answer d) :
      Course access code c
        ((updates d).bind fun fields => resultOfOutcome (.record (overlay (abortOutcome f) fields)))
        [.install, .evaluate code, .readConsole]

/-- What is asked of a context when an order is carried out, and what becomes of the session. -/
inductive Carried (access : ContextAccess κ) (j : Journal (Session (Traced κ))) : Order → List Act → Prop where
  /-- A run on an open session takes one of the courses. Only the console lets an abort pass, and the session stays
  open. -/
  | executed {code : Text} {acts : List Act} (isOpen : j.host.isOpen = true)
      (course : Course access code j.host.context.context (answerTo access.traced code j) acts)
      (evaluates : .evaluate code ∈ acts ↔
        ∃ a, (access.eval .install consoleText j.host.context.context).1 = .ok a)
      (rereads : .readConsole ∈ acts ↔ ∃ f, Stops access code j.host.context.context f)
      (contained : ∀ f, answerTo access.traced code j = .error f → isAbort f = true → acts = [.install])
      (stays : ((Order.execute code).left access.traced j).host.isOpen = true) :
      Carried access j (.execute code) acts
  | refused {code : Text} (isOpen : j.host.isOpen = false)
      (answer : answerTo access.traced code j =
        .error (.classified .evaluation "QuickJS context has already been disposed" none))
      (stays : ((Order.execute code).left access.traced j).host.isOpen = false) :
      Carried access j (.execute code) []
  | released (isOpen : j.host.isOpen = true) (closes : (Order.dispose.left access.traced j).host.isOpen = false) :
      Carried access j .dispose [.collect]
  | idle (isOpen : j.host.isOpen = false) (stays : (Order.dispose.left access.traced j).host.isOpen = false) :
      Carried access j .dispose []

/-- Orders that are carried out one after another, each on what those before it leave. -/
inductive Obeyed (access : ContextAccess κ) :
    List Order → Journal (Session (Traced κ)) → List (List Act) → Prop where
  | nil (j : Journal (Session (Traced κ))) : Obeyed access [] j []
  | cons {o : Order} {rest : List Order} {j : Journal (Session (Traced κ))} {acts : List Act}
      {later : List (List Act)} (carried : Carried access j o acts)
      (tail : Obeyed access rest (o.left access.traced j) later) :
      Obeyed access (o :: rest) j (acts :: later)

theorem host_readConsole (access : ContextAccess κ) (j : Journal (Session κ)) :
    (after (readConsole access) j).host =
      ⟨(access.eval .readConsole readerText j.host.context).2, j.host.isOpen⟩ := by
  simp only [after, readConsole, ending_bind, ending_outcome, ending_evaluate]
  cases (access.eval .readConsole readerText j.host.context).1 with
  | ok answer => simp
  | error f => cases hAbort : isAbort f <;> simp [hAbort]

/-- The context that is left when the outcome of a snippet is known. -/
def leftOver (access : ContextAccess κ) (code : Text) (c : κ) : κ :=
  match access.eval .evaluate (harnessText code) c with
  | (.ok _, d) => d
  | (.error f, d) => if isAbort f then (access.eval .readConsole readerText d).2 else d

theorem host_outcomeOf (access : ContextAccess κ) (code : Text) (j : Journal (Session κ)) :
    (after (outcomeOf access code) j).host = ⟨leftOver access code j.host.context, j.host.isOpen⟩ := by
  rcases hEval : access.eval .evaluate (harnessText code) j.host.context with ⟨r, d⟩
  simp only [after, outcomeOf, leftOver, ending_bind, ending_outcome, ending_evaluate, hEval]
  cases r with
  | ok answer => simp
  | error f =>
      cases hAbort : isAbort f with
      | false => simp [hAbort]
      | true =>
          simp only [hAbort, ↓reduceIte, ending_bind, ending_log]
          generalize hNext : Journal.logged _ _ = k
          have hSession : k.host = ⟨d, j.host.isOpen⟩ := by rw [← hNext]; rfl
          have hConsole := host_readConsole access k
          rw [hSession, after] at hConsole
          rcases hRead : ending (readConsole access) k with ⟨console, l⟩
          rw [hRead] at hConsole
          cases console with
          | error g => exact hConsole
          | ok fields =>
              simp only [ending_ofExcept]
              cases updates fields <;> exact hConsole

/-- A run leaves an open session open. -/
theorem host_execute (access : ContextAccess κ) (code : Option Text) {j : Journal (Session κ)}
    (hOpen : j.host.isOpen = true) :
    (after (execute access code) j).host =
      ⟨match (access.eval .install consoleText j.host.context).1 with
        | .ok _ => leftOver access (code.getD "") (installed access j.host.context)
        | .error _ => installed access j.host.context, true⟩ := by
  simp only [after, execute, ending_bind, ending_host, hOpen, ending_evaluate, Bool.not_true,
    Bool.false_eq_true, ↓reduceIte]
  cases (access.eval .install consoleText j.host.context).1 with
  | error f => rfl
  | ok a =>
      simp only [ending_log]
      generalize hNext : Journal.logged _ _ = k
      have hSession : k.host = ⟨installed access j.host.context, true⟩ := by rw [← hNext]; rfl
      have hOutcome := host_outcomeOf access (code.getD "") k
      rw [hSession, after] at hOutcome
      rcases hEnd : ending (outcomeOf access (code.getD "")) k with ⟨outcome, l⟩
      rw [hEnd] at hOutcome
      cases outcome with
      | error f => exact hOutcome
      | ok d => cases d <;> simpa using hOutcome

/-- What a run asks of its context. -/
def asked (access : ContextAccess κ) (code : Text) (c : κ) : List Act :=
  match (access.eval .install consoleText c).1 with
  | .error _ => [.install]
  | .ok _ =>
    match (evaluated access code c).1 with
    | .ok _ => [.install, .evaluate code]
    | .error f => if isAbort f then [.install, .evaluate code, .readConsole] else [.install, .evaluate code]

/-- Acts are noted behind the context's back. -/
theorem endAt_traced (access : ContextAccess κ) (code : Option Text) (w : Traced κ) :
    endAt access.traced code w = endAt access code w.context := by
  have hOutcome (code : Text) (v : Traced κ) :
      outcomeAt access.traced code v = outcomeAt access code v.context := by
    rcases hEval : access.eval .evaluate (harnessText code) v.context with ⟨r, d⟩
    cases r with
    | ok answer => simp only [outcomeAt, ContextAccess.traced, hEval]
    | error f =>
        simp only [outcomeAt, ContextAccess.traced, hEval]
        rfl
  have hInstalled : (installed access.traced w).context = installed access w.context := rfl
  unfold endAt
  rw [hOutcome, hInstalled]
  rfl

theorem acts_left (access : ContextAccess κ) (code : Text) {j : Journal (Session (Traced κ))}
    (hOpen : j.host.isOpen = true) :
    (after ((engine access.traced).execute (some code) .nothing) j).host.context.acts =
      j.host.context.acts ++ asked access code j.host.context.context := by
  have hHost := host_execute access.traced (some code) hOpen
  have hInstalled : installed access.traced j.host.context =
      j.host.context.noted .install (installed access j.host.context.context) := rfl
  change (after (execute access.traced (some code)) j).host.context.acts = _
  rw [hHost, hInstalled, asked, evaluated]
  cases hInstall : (access.eval .install consoleText j.host.context.context).1 with
  | error f => simp [ContextAccess.traced, hInstall, Traced.noted]
  | ok a =>
      rcases hEval : access.eval .evaluate (harnessText code) (installed access j.host.context.context)
        with ⟨r, d⟩
      cases r with
      | ok answer =>
          simp [ContextAccess.traced, leftOver, hInstall, hEval, Traced.noted, Act.evaluate]
      | error f =>
          cases hAbort : isAbort f <;>
            simp [ContextAccess.traced, leftOver, hInstall, hEval, hAbort, Traced.noted, Act.evaluate,
              Act.readConsole]

theorem parsed_eq_ok_iff {answer : Option Text} {d : Datum} : parsed answer = .ok d ↔ Reads answer d := by
  cases answer with
  | none => simp [parsed, Reads]
  | some s => cases hRead : Json.read s <;> simp [parsed, Reads, hRead]

theorem not_reads {answer : Option Text} {f : Failure} (hFails : parsed answer = .error f) (d : Datum) :
    ¬Reads answer d := by
  intro hReads
  rw [parsed_eq_ok_iff.mpr hReads] at hFails
  cases hFails

section

variable {access : ContextAccess κ} {code : Text} {c : κ}

theorem endAt_given {answer : Option Text} (hGives : Gives access code c answer) :
    endAt access (some code) c = (parsed answer).bind resultOfOutcome := by
  obtain ⟨⟨a, hInstall⟩, hAnswer⟩ := hGives
  rcases hEval : evaluated access code c with ⟨r, d⟩
  rw [hEval] at hAnswer
  rw [evaluated] at hEval
  dsimp only at hAnswer
  simp only [endAt, hInstall, outcomeAt, Option.getD_some, hEval, hAnswer]

theorem endAt_raised {f : Failure} (hInstalls : ∃ a, (access.eval .install consoleText c).1 = .ok a)
    (hRaises : (evaluated access code c).1 = .error f) (hOther : isAbort f = false) :
    endAt access (some code) c = .error f := by
  obtain ⟨a, hInstall⟩ := hInstalls
  rcases hEval : evaluated access code c with ⟨r, d⟩
  rw [hEval] at hRaises
  rw [evaluated] at hEval
  dsimp only at hRaises
  simp only [endAt, hInstall, outcomeAt, Option.getD_some, hEval, hRaises, hOther]
  rfl

/-- After an abort the console is read in the context that the snippet has left. -/
theorem endAt_stopped {f : Failure} (hStops : Stops access code c f) :
    endAt access (some code) c =
      (consoleAt access (evaluated access code c).2).bind fun console =>
        (updates console).bind fun fields => resultOfOutcome (.record (overlay (abortOutcome f) fields)) := by
  obtain ⟨⟨a, hInstall⟩, hRaises, hAbort⟩ := hStops
  rcases hEval : evaluated access code c with ⟨r, d⟩
  rw [hEval] at hRaises
  rw [evaluated] at hEval
  dsimp only at hRaises
  simp only [endAt, hInstall, outcomeAt, Option.getD_some, hEval, hRaises, hAbort, ↓reduceIte]
  cases consoleAt access d with
  | error g => rfl
  | ok console => cases hFields : updates console <;> simp [bind, Except.bind, pure, Except.pure, hFields]

theorem asked_given {answer : Option Text} (hGives : Gives access code c answer) :
    asked access code c = [.install, .evaluate code] := by
  obtain ⟨⟨a, hInstall⟩, hAnswer⟩ := hGives
  simp only [asked, hInstall, hAnswer]

theorem asked_raised {f : Failure} (hInstalls : ∃ a, (access.eval .install consoleText c).1 = .ok a)
    (hRaises : (evaluated access code c).1 = .error f) (hOther : isAbort f = false) :
    asked access code c = [.install, .evaluate code] := by
  obtain ⟨a, hInstall⟩ := hInstalls
  simp only [asked, hInstall, hRaises, hOther, Bool.false_eq_true, ↓reduceIte]

theorem asked_stopped {f : Failure} (hStops : Stops access code c f) :
    asked access code c = [.install, .evaluate code, .readConsole] := by
  obtain ⟨⟨a, hInstall⟩, hRaises, hAbort⟩ := hStops
  simp only [asked, hInstall, hRaises, hAbort, ↓reduceIte]

/-- An abort whose console cannot be read is answered with its own text. -/
theorem resultOfOutcome_unheard (f : Failure) :
    resultOfOutcome (.record (overlay (abortOutcome f) [("logs", .list []), ("errors", .list [])])) =
      .ok
        { success := false
          output := none
          error := .text (if f.text = "" then "Unknown error" else f.text)
          runtime := "QuickJS (Sandboxed)" } := by
  have hMembers : Recovered (.error interrupted) [("logs", .list []), ("errors", .list [])] := .unreadable rfl
  have hLines : linesOf (.record (overlay (abortOutcome f) [("logs", .list []), ("errors", .list [])])) "errors" =
      textList [] := linesOf_merged hMembers.nodup f rfl
  have hOk := field_merged hMembers.nodup f "ok"
  have hError := field_merged hMembers.nodup f "error"
  rw [resultOfOutcome, hLines]
  generalize Datum.record (overlay (abortOutcome f) _) = outcome at hOk hError
  have hFailed : (outcome.field "ok").truthy = false := by rw [hOk]; rfl
  have hMessage : messageOf outcome = .text (abortMessage f) := by
    rw [messageOf_failed hFailed, hError]
    exact message_abortOutcome f
  rw [(abortResult_iff f [] hFailed _).mpr hMessage]
  have hText : orElseText f.text unknownError = if f.text = "" then ("Unknown error" : Text) else f.text := by
    cases f.text <;> rfl
  rw [← hText]
  simp [abortResult, RunResult.failure, joinLines, abortMessage, runtime]

/-- What a run comes to after an abort, by what the reader of the console answers. -/
theorem course_stopped {f : Failure} (hStops : Stops access code c f) :
    Course access code c (endAt access (some code) c) [.install, .evaluate code, .readConsole] := by
  rw [endAt_stopped hStops, consoleAt, ← reread]
  cases hReader : reread access code c with
  | error g =>
      cases hOther : isAbort g with
      | false =>
          simp only [hOther, Bool.false_eq_true, ↓reduceIte]
          exact .broken hStops hReader hOther
      | true =>
          simp only [hOther, ↓reduceIte]
          have hCourse := Course.unheard hStops hReader hOther
          rw [← resultOfOutcome_unheard f] at hCourse
          exact hCourse
  | ok answer =>
      cases hParsed : parsed answer with
      | error g =>
          simp only [hParsed]
          exact .garbled hStops hReader (not_reads hParsed) hParsed
      | ok value =>
          simp only [hParsed]
          exact .recovered hStops hReader (parsed_eq_ok_iff.mp hParsed)

/-- Whatever its context answers, a run takes one of the courses. -/
theorem endAt_course (access : ContextAccess κ) (code : Text) (c : κ) :
    Course access code c (endAt access (some code) c) (asked access code c) := by
  cases hInstall : (access.eval .install consoleText c).1 with
  | error f =>
      rw [endAt, asked, hInstall]
      exact .uninstalled hInstall
  | ok a =>
      have hInstalls : ∃ a, (access.eval .install consoleText c).1 = .ok a := ⟨a, hInstall⟩
      cases hEval : (evaluated access code c).1 with
      | ok answer =>
          have hGives : Gives access code c answer := ⟨hInstalls, hEval⟩
          rw [endAt_given hGives, asked_given hGives]
          cases hParsed : parsed answer with
          | error f => exact .unreadable hGives (not_reads hParsed) hParsed
          | ok value =>
              have hReads := parsed_eq_ok_iff.mp hParsed
              cases value with
              | record fields => exact .answered hGives hReads
              | _ =>
                  refine .shapeless hGives hReads fun fields hSame => ?_
                  cases hSame
      | error f =>
          cases hAbort : isAbort f with
          | false =>
              rw [endAt_raised hInstalls hEval hAbort, asked_raised hInstalls hEval hAbort]
              exact .raised hInstalls hEval hAbort
          | true =>
              have hStops : Stops access code c f := ⟨hInstalls, hEval, hAbort⟩
              rw [asked_stopped hStops]
              exact course_stopped hStops

end

namespace Course

variable {access : ContextAccess κ} {code : Text} {c : κ} {answer : Except Failure RunResult} {acts : List Act}

/-- The snippet is evaluated exactly if the console could be installed. -/
theorem evaluate_mem_iff (hCourse : Course access code c answer acts) :
    .evaluate code ∈ acts ↔ ∃ a, (access.eval .install consoleText c).1 = .ok a := by
  cases hCourse with
  | uninstalled raises => simp [raises, Act.evaluate, Act.install]
  | raised installs _ _ => exact iff_of_true (by simp) installs
  | unreadable gives _ _ => exact iff_of_true (by simp) gives.installs
  | shapeless gives _ _ => exact iff_of_true (by simp) gives.installs
  | answered gives _ => exact iff_of_true (by simp) gives.installs
  | unheard stops _ _ => exact iff_of_true (by simp) stops.installs
  | broken stops _ _ => exact iff_of_true (by simp) stops.installs
  | garbled stops _ _ _ => exact iff_of_true (by simp) stops.installs
  | recovered stops _ _ => exact iff_of_true (by simp) stops.installs

theorem not_stops_of_gives {given : Option Text} (hGives : Gives access code c given) :
    ¬∃ f, Stops access code c f := by
  rintro ⟨f, hStops⟩
  have hBoth := hGives.gives.symm.trans hStops.raises
  cases hBoth

/-- The console is read exactly if the evaluation was aborted. -/
theorem readConsole_mem_iff (hCourse : Course access code c answer acts) :
    .readConsole ∈ acts ↔ ∃ f, Stops access code c f := by
  have hApart : .readConsole ∉ [Act.install, Act.evaluate code] := by
    simp [Act.readConsole, Act.install, Act.evaluate]
  cases hCourse with
  | uninstalled raises =>
      refine iff_of_false (by simp [Act.readConsole, Act.install]) ?_
      rintro ⟨f, ⟨a, hInstall⟩, _⟩
      rw [raises] at hInstall
      cases hInstall
  | raised _ raises other =>
      refine iff_of_false hApart ?_
      rintro ⟨f, _, hRaises, hAbort⟩
      rw [raises] at hRaises
      cases hRaises
      rw [other] at hAbort
      cases hAbort
  | unreadable gives _ _ => exact iff_of_false hApart (not_stops_of_gives gives)
  | shapeless gives _ _ => exact iff_of_false hApart (not_stops_of_gives gives)
  | answered gives _ => exact iff_of_false hApart (not_stops_of_gives gives)
  | unheard stops _ _ => exact iff_of_true (by simp) ⟨_, stops⟩
  | broken stops _ _ => exact iff_of_true (by simp) ⟨_, stops⟩
  | garbled stops _ _ _ => exact iff_of_true (by simp) ⟨_, stops⟩
  | recovered stops _ _ => exact iff_of_true (by simp) ⟨_, stops⟩

theorem isAbort_eq_false {α : Type} {r : Except Failure α} {f : Failure} (hOwned : Owned r) (hError : r = .error f) :
    isAbort f = false := by
  subst hError
  exact hOwned.2

/-- An abort that a run ends with was raised when the console was installed. -/
theorem contained (hCourse : Course access code c answer acts) {f : Failure} (hError : answer = .error f)
    (hAbort : isAbort f = true) : acts = [.install] := by
  have hAbsurd (hOther : isAbort f = false) : acts = [.install] := by
    rw [hAbort] at hOther
    cases hOther
  cases hCourse with
  | uninstalled raises => rfl
  | raised _ _ other =>
      cases hError
      exact hAbsurd other
  | unreadable _ _ fails =>
      cases hError
      exact hAbsurd (isAbort_eq_false (owned_parsed _) fails)
  | shapeless _ _ _ =>
      cases hError
      exact hAbsurd rfl
  | answered _ _ => exact hAbsurd (isAbort_eq_false (owned_buildResult _ _ _) hError)
  | unheard _ _ _ => cases hError
  | broken _ _ other =>
      cases hError
      exact hAbsurd other
  | garbled _ _ _ fails =>
      cases hError
      exact hAbsurd (isAbort_eq_false (owned_parsed _) fails)
  | recovered _ _ _ =>
      exact hAbsurd (isAbort_eq_false
        (Ends.bind (owned_updates _) fun _ _ => owned_resultOfOutcome _) hError)

end Course

theorem ending_refused {access : ContextAccess κ} {code : Text} {j : Journal (Session κ)}
    (hClosed : j.host.isOpen = false) :
    ending ((engine access).execute (some code) .nothing) j =
      (.error (.classified .evaluation "QuickJS context has already been disposed" none), j) := by
  simp [engine, execute, hClosed]

theorem host_dispose (access : ContextAccess κ) (j : Journal (Session κ)) :
    (after (engine access).dispose j).host =
      if j.host.isOpen then ⟨access.collect j.host.context, false⟩ else j.host := rfl

/-- Each order is carried out in one of four ways, and the acts are added to those before. -/
theorem carried (access : ContextAccess κ) (o : Order) (j : Journal (Session (Traced κ))) :
    ∃ acts, Carried access j o acts ∧
      (o.left access.traced j).host.context.acts = j.host.context.acts ++ acts := by
  cases o with
  | execute code =>
      cases hOpen : j.host.isOpen with
      | true =>
          have hAnswer : answerTo access.traced code j = endAt access (some code) j.host.context.context := by
            rw [← endAt_traced]
            exact ending_execute hOpen
          have hStays : ((Order.execute code).left access.traced j).host.isOpen = true :=
            congrArg Session.isOpen (host_execute access.traced (some code) hOpen)
          have hCourse := endAt_course access code j.host.context.context
          rw [← hAnswer] at hCourse
          refine ⟨_, .executed hOpen hCourse hCourse.evaluate_mem_iff hCourse.readConsole_mem_iff ?_ hStays,
            acts_left access code hOpen⟩
          intro f hError hAbort
          exact hCourse.contained hError hAbort
      | false =>
          have hLeft : (Order.execute code).left access.traced j = j :=
            congrArg Prod.snd (ending_refused hOpen)
          refine ⟨[], .refused hOpen (congrArg Prod.fst (ending_refused hOpen)) ?_, ?_⟩
          · rw [hLeft, hOpen]
          · rw [hLeft, List.append_nil]
  | dispose =>
      have hHost := host_dispose access.traced j
      cases hOpen : j.host.isOpen with
      | true =>
          rw [if_pos hOpen] at hHost
          refine ⟨[.collect], .released hOpen (congrArg Session.isOpen hHost), ?_⟩
          exact congrArg (fun s => s.context.acts) hHost
      | false =>
          rw [hOpen, if_neg Bool.false_ne_true] at hHost
          refine ⟨[], .idle hOpen ?_, ?_⟩
          · exact (congrArg Session.isOpen hHost).trans hOpen
          · rw [List.append_nil]
            exact congrArg (fun s => s.context.acts) hHost

/-- Over any run of orders the acts on the context are those of the orders, one after another. -/
theorem serve_protocol (access : ContextAccess κ) (orders : List Order) (j : Journal (Session (Traced κ))) :
    ∃ traces, Obeyed access orders j traces ∧
      (serve access.traced orders j).host.context.acts = j.host.context.acts ++ traces.flatten := by
  induction orders generalizing j with
  | nil => exact ⟨[], .nil j, by simp [serve]⟩
  | cons o rest ih =>
      obtain ⟨acts, hCarried, hActs⟩ := carried access o j
      obtain ⟨traces, hObeyed, hLater⟩ := ih (o.left access.traced j)
      refine ⟨acts :: traces, .cons hCarried hObeyed, ?_⟩
      rw [serve, hLater, hActs, List.flatten_cons, List.append_assoc]

end SnippetService.Snippet
