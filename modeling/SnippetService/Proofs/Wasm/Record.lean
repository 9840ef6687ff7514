import SnippetService.Proofs.Wasm.Call
/-!
The record of an engine for modules. What a call prints and how it ends is the same on every engine, whatever was
printed on it before; the engine keeps all of it in order, and a call that invokes a function answers the whole
record. Only a listing of exports takes the place of what was there.
-/
namespace SnippetService.Wasm

open Job

/-- What becomes of a call on an engine with a record, from what it comes to by itself: its answer, and the record
that it leaves. -/
inductive Course (record : List Text) :
    Close × List Text → Except Failure RunResult → List Text → Prop where
  /-- A function was invoked. The answer is the whole record: what was there, then what is printed, then one final
  line. -/
  | invoked (printed : List Text) (final : Text) :
      Course record (.line final, printed) (.ok (finished (record ++ printed ++ [final]).flatten))
        (record ++ printed ++ [final])
  /-- Nothing was invoked. The listing takes the place of the record. -/
  | listed (printed : List Text) (names : List String) :
      Course record (.listing names, printed) (.ok (finished (exportsLine names))) [exportsLine names]
  /-- The call fails. What was printed until then stays on record. -/
  | failed (printed : List Text) (isLast : Bool) (f : Failure) :
      Course record (.failure isLast, printed) (.error f) (record ++ printed)

/-- The steps that are left to the next call, unless the time is over. -/
def Close.fuelLeft (fuel : Option Nat) : Close → Option Nat
  | failure true => none
  | _ => fuel

section

variable (l : Linked) (fuel : Option Nat)

theorem composed_start : (l.start fuel).Composed := by
  refine (Act.Composed.setUp _).bind fun _ => ?_
  split
  · exact .pure ()
  · exact (Act.Composed.invoke _ _ _ _).bind fun _ => .pure ()

theorem invoked_following (args : List Datum) (r : Role) (f : Callee) (m : Machine) (earlier : List Text) :
    l.invoked fuel args r f (m.following earlier) =
      ((l.invoked fuel args r f m).1, (l.invoked fuel args r f m).2.following earlier) := by
  unfold Linked.invoked
  cases r.values? args f.type.params with
  | none => rfl
  | some values =>
      dsimp only
      rw [(Act.Composed.invoke l.fixture _ f values).steady m earlier]
      rcases (Act.invoke l.fixture _ f values).ending m with ⟨h | results, n⟩
      · rfl
      · dsimp only
        cases r.finalLine l.fixture.surroundings.reference args results <;> rfl

/-- How an instance is run does not depend on what was printed before, and neither does what it prints. -/
theorem entered_following (c : Call) (m : Machine) (earlier : List Text) :
    l.entered fuel c (m.following earlier) =
      ((l.entered fuel c m).1, (l.entered fuel c m).2.following earlier) := by
  unfold Linked.entered
  split
  · exact invoked_following ..
  · rfl

end

theorem ends_finalLine (r : Role) (reference : Nat → String) (args : List Datum) (results : List Value) :
    Ends (fun f => f.isUnforeseen = true) (· ≠ []) (r.finalLine reference args results) := by
  have hAnswer := unforeseen_formatNumber (resultDatum reference results)
  rw [formatNumber_resultDatum] at hAnswer
  cases r with
  | named name =>
      refine (Ends.mapM unforeseen_formatNumber args).bind fun shown _ => hAnswer.bind fun answer _ => ?_
      change (name ++ "(" ++ Text.join ", " shown ++ ") = " ++ answer : Text) ≠ []
      simp
  | start => exact List.cons_ne_nil _ _
  | main =>
      refine hAnswer.bind fun answer _ => ?_
      change ("main() = " ++ answer : Text) ≠ []
      simp

/-- Where an invocation leaves a line, the function has returned and this is its final line. -/
theorem finalLine_of_invoked {l : Linked} {fuel : Option Nat} {args : List Datum} {r : Role} {f : Callee} {m : Machine}
    {text : Text} (hLine : (l.invoked fuel args r f m).1 = .line text) :
    ∃ results, r.finalLine l.fixture.surroundings.reference args results = .ok text := by
  unfold Linked.invoked at hLine
  split at hLine
  · cases hLine
  · split at hLine
    · cases hLine
    · split at hLine
      · cases hLine
      · rename_i hFinal
        cases hLine
        exact ⟨_, hFinal⟩

theorem line_ne_empty {l : Linked} {fuel : Option Nat} {c : Call} {m : Machine} {text : Text}
    (hLine : (l.entered fuel c m).1 = .line text) : text ≠ [] := by
  unfold Linked.entered at hLine
  split at hLine
  · rename_i r f hTarget
    obtain ⟨results, hFinal⟩ := finalLine_of_invoked hLine
    have hEnds := ends_finalLine r l.fixture.surroundings.reference c.args results
    rw [hFinal] at hEnds
    exact hEnds
  · cases hLine

theorem exportsLine_ne_empty (names : List String) : exportsLine names ≠ [] := List.cons_ne_nil _ _

/-- A record is shown as it is, unless it is empty. -/
theorem orElseText_flatten {record : List Text} {final : Text} (hFinal : final ≠ []) :
    orElseText (record ++ [final]).flatten noOutput = (record ++ [final]).flatten := by
  have hText : (record ++ [final]).flatten ≠ [] := by simp [hFinal]
  rw [orElseText, if_neg]
  rwa [List.isEmpty_iff]

/-- An engine that has kept a record, and on which no timer runs. -/
structure Keeps (env : Surroundings) (limit : Option Nat) (fuel : Option Nat) (record : List Text)
    (s : EngineState) : Prop where
  isOpen : s.isOpen = true
  surroundings : s.surroundings = env
  isIdle : s.isTimed = false
  memoryLimit : s.memoryLimit = limit
  fuel : s.fuel = fuel
  lines : s.lines = record.reverse

section

variable {env : Surroundings} {limit : Option Nat} {fuel : Option Nat} {record later : List Text} {s : EngineState}

/-- New lines make a longer record, and nothing else of the engine changes with them. -/
theorem Keeps.withLines (hKeeps : Keeps env limit fuel record s) {lines : List Text}
    (hLines : lines = later.reverse) : Keeps env limit fuel later { s with lines := lines } where
  isOpen := hKeeps.isOpen
  surroundings := hKeeps.surroundings
  isIdle := hKeeps.isIdle
  memoryLimit := hKeeps.memoryLimit
  fuel := hKeeps.fuel
  lines := hLines

/-- What becomes of an engine that has kept a record makes no difference to the record, as long as no timer runs. -/
theorem Keeps.staged (hKeeps : Keeps env limit fuel record s) {stages : List Stage} (hIdle : timerRuns stages = false) :
    Keeps env limit fuel record { s with stages := stages } where
  isOpen := hKeeps.isOpen
  surroundings := hKeeps.surroundings
  isIdle := hIdle
  memoryLimit := hKeeps.memoryLimit
  fuel := hKeeps.fuel
  lines := hKeeps.lines

theorem Keeps.visited (hKeeps : Keeps env limit fuel record s) (f : Option Callee) :
    Keeps env limit fuel record (s.visited f) := by
  cases f with
  | none => exact hKeeps
  | some c => exact hKeeps.staged hKeeps.isIdle

/-- When the time is over, no step is left. -/
theorem Keeps.failed (hKeeps : Keeps env limit fuel record s) (isLast : Bool) :
    Keeps env limit ((Close.failure isLast).fuelLeft fuel) record { s with isOver := s.isOver || isLast } := by
  cases isLast with
  | false =>
      rw [Bool.or_false]
      exact hKeeps
  | true =>
      rw [Bool.or_true]
      exact ⟨hKeeps.isOpen, hKeeps.surroundings, hKeeps.isIdle, hKeeps.memoryLimit, rfl, hKeeps.lines⟩

/-- Where the work on an instance closes, the call takes its course. -/
theorem course_of_closes {before : List Text} (hKeeps : Keeps env limit fuel before s) {close : Close} {m : Machine}
    {r : Except Failure Unit} {t : EngineState} (hCloses : Closes s (close, m.following record.reverse) (r, t))
    (hLine : ∀ text, close = .line text → text ≠ []) :
    ∃ later, Keeps env limit (close.fuelLeft fuel) later t ∧ Course record (close, m.printed)
      (r.map fun _ => finished (orElseText t.lines.reverse.flatten noOutput)) later := by
  have hBelow : (m.following record.reverse).lines = m.lines ++ record.reverse := rfl
  cases hCloses with
  | line text =>
      have hLines : text :: (m.following record.reverse).lines =
          (record ++ m.printed ++ [text]).reverse := by
        simp [hBelow, Machine.printed]
      refine ⟨record ++ m.printed ++ [text], hKeeps.withLines hLines, ?_⟩
      simp only [Except.map, hLines, List.reverse_reverse, orElseText_flatten (hLine text rfl)]
      exact .invoked m.printed text
  | listing names =>
      refine ⟨[exportsLine names], hKeeps.withLines rfl, ?_⟩
      have hText : orElseText ([] ++ [exportsLine names]).flatten noOutput = _ :=
        orElseText_flatten (exportsLine_ne_empty names)
      rw [List.nil_append, List.flatten_singleton] at hText
      simp only [Except.map, List.reverse_singleton, List.flatten_singleton, hText]
      exact .listed m.printed names
  | failure isLast f =>
      have hLines : (m.following record.reverse).lines = (record ++ m.printed).reverse := by
        simp [hBelow, Machine.printed]
      exact ⟨record ++ m.printed, (hKeeps.withLines hLines).failed isLast, .failed m.printed isLast f⟩

/-- A call that fails before anything is printed leaves the record alone. -/
theorem course_of_silence (hKeeps : Keeps env limit fuel record s) (f : Failure) :
    ∃ later, Keeps env limit ((Close.failure false).fuelLeft fuel) later s ∧
      Course record (.failure false, []) (.error f) later := by
  refine ⟨record ++ [], ?_, .failed [] false f⟩
  rw [List.append_nil]
  exact hKeeps

section

variable {j : Journal EngineState} {l : Linked} {c : Call}

/-- A call for which an instance has been made takes its course. -/
theorem instance_course {before : List Text} (hKeeps : Keeps env limit fuel before j.host)
    (hLinked : c.linked env = .ok l) {m : Machine} (hLines : (m.following record.reverse).lines = j.host.lines) :
    let job := (Instance.mk l.fixture (m.following record.reverse) l.exports).job c
    ∃ later, Keeps env limit ((l.entered fuel c m).1.fuelLeft fuel) later (after job j).host ∧
      Course record ((l.entered fuel c m).1, (l.entered fuel c m).2.printed) (ending job j).1 later := by
  have hCloses := closes_enter (c := c) (j := j.hosting (j.host.noted .timerStarted))
    (x := ⟨l.fixture, m.following record.reverse, l.exports⟩) rfl rfl (names_linked hLinked) rfl hLines
  rw [Journal.hosting_host, EngineState.fuel_noted, hKeeps.fuel, entered_following] at hCloses
  have hIdle : Keeps env limit fuel before
      (((j.host.noted .timerStarted).visited (l.invoked? c)).noted .timerCancelled) := by
    cases l.invoked? c <;> exact hKeeps.staged rfl
  obtain ⟨later, hLater, hCourse⟩ :=
    course_of_closes hIdle (hCloses.noted .timerCancelled) fun _ hLine => line_ne_empty hLine
  refine ⟨later, ?_⟩
  simp only [after, Instance.job, ending_bind, ending_timed] at hLater hCourse ⊢
  rcases hEnter : ending (enter _ c.args _) (j.hosting (j.host.noted .timerStarted)) with ⟨f | u, k⟩
  · rw [hEnter] at hLater hCourse
    exact ⟨hLater, hCourse⟩
  · rw [hEnter] at hLater hCourse
    exact ⟨hLater, hCourse⟩

/-- A call whose program has been linked takes its course. -/
theorem linked_course (hKeeps : Keeps env limit fuel record j.host) (hLinked : c.linked env = .ok l) :
    ∃ later, Keeps env limit ((c.alone env limit fuel).1.fuelLeft fuel) later (after (l.job c) j).host ∧
      Course record (c.alone env limit fuel) (ending (l.job c) j).1 later := by
  have hLimit := hKeeps.memoryLimit
  simp only [Call.alone, hLinked, after, Linked.job, ending_bind]
  cases hBlank : l.blank env.bounds limit with
  | error message =>
      have hRefused := ending_instantiate_refused (j := j) (by rw [hKeeps.surroundings, hLimit]; exact hBlank)
      rw [hRefused]
      exact course_of_silence hKeeps _
  | ok m =>
      have hInstance :=
        ending_instantiate_blank (j := j) (by rw [hKeeps.surroundings, hLimit]; exact hBlank) hKeeps.isIdle
      have hFollowing : m.withLines j.host.lines = m.following record.reverse := by
        rw [Machine.following, blank_lines hBlank, hKeeps.lines, List.nil_append]
      rw [hFollowing, hKeeps.fuel, (composed_start l fuel).steady m record.reverse] at hInstance
      dsimp only
      rcases hStart : (l.start fuel).ending m with ⟨h | u, n⟩
      · rw [hStart] at hInstance
        obtain ⟨f, hFails⟩ := hInstance
        rw [hFails]
        refine course_of_closes (hKeeps.visited (l.called? m))
          (Closes.failed f (n.following record.reverse)) fun _ hLine => ?_
        cases hLine
      · rw [hStart] at hInstance
        have hMade : Keeps env limit fuel (record ++ n.printed)
            { j.host.visited (l.called? m) with lines := (n.following record.reverse).lines } :=
          (hKeeps.visited (l.called? m)).withLines (by simp [Machine.following, Machine.printed])
        dsimp only at hInstance
        rw [hInstance]
        exact instance_course (j := j.hosting _) hMade hLinked rfl

end

end

/-- A call takes its course, and the engine keeps the record that it leaves. -/
theorem run_course {env : Surroundings} {limit fuel : Option Nat} {record : List Text} {j : Journal EngineState}
    (hKeeps : Keeps env limit fuel record j.host) (c : Call) :
    ∃ later, Keeps env limit ((c.alone env limit fuel).1.fuelLeft fuel) later (after c.run j).host ∧
      Course record (c.alone env limit fuel) (ending c.run j).1 later := by
  have hCompiled : Keeps env limit fuel record (j.host.noted .compiled) := hKeeps.staged hKeeps.isIdle
  cases c.approach env with
  | @refused f hLinked hRun =>
      rw [after, hRun hKeeps.isOpen hKeeps.surroundings, Call.alone, hLinked]
      exact course_of_silence hKeeps f
  | @unlinked f hLinked hRun =>
      rw [after, hRun hKeeps.isOpen hKeeps.surroundings, Call.alone, hLinked]
      exact course_of_silence hCompiled f
  | linked hLinked hRun =>
      rw [after, hRun hKeeps.isOpen hKeeps.surroundings]
      exact linked_course (j := j.hosting (j.host.noted .compiled)) hCompiled hLinked

end SnippetService.Wasm
