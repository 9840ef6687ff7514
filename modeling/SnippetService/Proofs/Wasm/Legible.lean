import SnippetService.Proofs.Wasm.Record
/-!
What is answered of a module is made of characters: whatever it prints, whatever it returns and however its functions
are called, as long as the arguments of the call are shown in characters.
-/
namespace SnippetService.Wasm

open Job

/-- Arguments that are shown in characters. -/
def AreLegible (args : List Datum) : Prop := ∀ d ∈ args, d.display.isPlain = true

/-- Ends with a failure that no class was foreseen for, or with characters. -/
abbrev IsLegible (r : Except Failure Text) : Prop := Ends (fun f => f.isUnforeseen = true) (fun s => s.isPlain = true) r

theorem plain_shown (reference : Nat → String) (v : Value) : (v.toDatum reference).shown.isPlain = true := by
  cases v with
  | func index => cases index <;> exact Text.isPlain_ofString _
  | external n => cases n <;> exact Text.isPlain_ofString _
  | _ => exact Text.isPlain_ofString _

theorem legible_shownResults (reference : Nat → String) (results : List Value) :
    IsLegible (shownResults reference results) := by
  match results with
  | [] => exact Text.isPlain_ofString _
  | [v] => exact plain_formatNumber (v.plain_display reference)
  | v :: w :: rest =>
      have hShown : (Text.join ", " ((v :: w :: rest).map fun v => (v.toDatum reference).shown)).isPlain = true := by
        refine Text.isPlain_join (Text.isPlain_ofString _) fun part hPart => ?_
        obtain ⟨u, -, rfl⟩ := List.mem_map.mp hPart
        exact plain_shown reference u
      change Text.isPlain _ = true
      simpa using hShown

theorem legible_arguments {args : List Datum} (hArgs : AreLegible args) :
    Ends (fun f => f.isUnforeseen = true) (fun shown => ∀ s ∈ shown, Text.isPlain s = true)
      (args.mapM formatNumber) := by
  induction args with
  | nil => exact fun _ hNone => absurd hNone List.not_mem_nil
  | cons d rest ih =>
      rw [List.mapM_cons]
      refine (plain_formatNumber (hArgs d List.mem_cons_self)).bind fun first hFirst => ?_
      refine (ih fun e hRest => hArgs e (List.mem_cons_of_mem d hRest)).bind fun others hOthers => ?_
      exact List.forall_mem_cons.mpr ⟨hFirst, hOthers⟩

/-- The final line of a call is made of characters. -/
theorem legible_finalLine (r : Role) (reference : Nat → String) {args : List Datum} (hArgs : AreLegible args)
    (results : List Value) : IsLegible (r.finalLine reference args results) := by
  cases r with
  | named name =>
      refine (legible_arguments hArgs).bind fun shown hShown => ?_
      refine (legible_shownResults reference results).bind fun answer hAnswer => ?_
      have hJoined := Text.isPlain_join (Text.isPlain_ofString ", ") hShown
      change Text.isPlain _ = true
      simp [hJoined, hAnswer]
  | start => exact Text.isPlain_ofString _
  | main =>
      refine (legible_shownResults reference results).bind fun answer hAnswer => ?_
      change Text.isPlain _ = true
      simp [hAnswer]

theorem plain_exportsLine (names : List String) : (exportsLine names).isPlain = true := by
  unfold exportsLine orElseText
  split <;> simp

/-- Whatever a call comes to, the lines that it leaves are made of characters. -/
def Close.IsLegible : Close → Prop
  | .line text => text.isPlain = true
  | _ => True

theorem plain_printed {m : Machine} (hLines : ∀ line ∈ m.lines, Text.isPlain line = true) :
    ∀ line ∈ m.printed, Text.isPlain line = true :=
  fun line hLine => hLines line (List.mem_reverse.mp hLine)

section

variable {l : Linked} {fuel : Option Nat} {m : Machine}

theorem legible_invoked {args : List Datum} (hArgs : AreLegible args) (r : Role) (f : Callee)
    (hLines : ∀ line ∈ m.lines, Text.isPlain line = true) :
    (l.invoked fuel args r f m).1.IsLegible ∧
      ∀ line ∈ (l.invoked fuel args r f m).2.lines, Text.isPlain line = true := by
  unfold Linked.invoked
  cases r.values? args f.type.params with
  | none => exact ⟨trivial, hLines⟩
  | some values =>
      dsimp only
      have hRun := (Act.Composed.invoke l.fixture
        (allowance l.fixture.surroundings.patience true fuel) f values).plain_lines hLines
      rcases hEnd : (Act.invoke l.fixture _ f values).ending m with ⟨h | results, n⟩
      · rw [hEnd] at hRun
        exact ⟨trivial, hRun⟩
      · rw [hEnd] at hRun
        dsimp only
        have hFinal := legible_finalLine r l.fixture.surroundings.reference hArgs results
        cases hText : r.finalLine l.fixture.surroundings.reference args results with
        | error e => exact ⟨trivial, hRun⟩
        | ok text =>
            rw [hText] at hFinal
            exact ⟨hFinal, hRun⟩

theorem legible_entered (l : Linked) (fuel : Option Nat) {c : Call} (hArgs : AreLegible c.args)
    (hLines : ∀ line ∈ m.lines, Text.isPlain line = true) :
    (l.entered fuel c m).1.IsLegible ∧ ∀ line ∈ (l.entered fuel c m).2.lines, Text.isPlain line = true := by
  unfold Linked.entered
  split
  · exact legible_invoked hArgs _ _ hLines
  · exact ⟨trivial, hLines⟩

end

/-- What a call comes to by itself is made of characters. -/
theorem legible_alone {c : Call} (hArgs : AreLegible c.args) (env : Surroundings) (limit fuel : Option Nat) :
    (c.alone env limit fuel).1.IsLegible ∧ ∀ line ∈ (c.alone env limit fuel).2, Text.isPlain line = true := by
  have hNothing : ∀ line ∈ ([] : List Text), line.isPlain = true := fun _ hLine => absurd hLine List.not_mem_nil
  unfold Call.alone
  cases c.linked env with
  | error f => exact ⟨trivial, hNothing⟩
  | ok l =>
      dsimp only
      cases hBlank : l.blank env.bounds limit with
      | error message => exact ⟨trivial, hNothing⟩
      | ok m =>
          dsimp only
          have hStart := (composed_start l fuel).plain_lines (m := m) (by rw [blank_lines hBlank]; exact hNothing)
          rcases hEnd : (l.start fuel).ending m with ⟨h | u, n⟩
          · rw [hEnd] at hStart
            exact ⟨trivial, plain_printed hStart⟩
          · rw [hEnd] at hStart
            have hEntered := legible_entered l fuel hArgs hStart
            exact ⟨hEntered.1, plain_printed hEntered.2⟩

/-- On a new engine a call that succeeds is answered in characters. -/
theorem legible_run {env : Surroundings} {limit fuel : Option Nat} {j : Journal EngineState}
    (hKeeps : Keeps env limit fuel [] j.host) {c : Call} (hArgs : AreLegible c.args) {result : RunResult}
    (hResult : (ending c.run j).1 = .ok result) :
    ∃ output : Text, result = finished output ∧ output.isPlain = true := by
  obtain ⟨later, -, hCourse⟩ := run_course hKeeps c
  obtain ⟨hClose, hPrinted⟩ := legible_alone hArgs env limit fuel
  rw [hResult] at hCourse
  generalize c.alone env limit fuel = run at hCourse hClose hPrinted
  cases hCourse with
  | invoked printed final =>
      refine ⟨_, rfl, Text.isPlain_flatten fun line hLine => ?_⟩
      rcases List.mem_append.mp hLine with hEarlier | hFinal
      · exact hPrinted line (by simpa using hEarlier)
      · rw [List.mem_singleton.mp hFinal]
        exact hClose
  | listed printed names => exact ⟨_, rfl, plain_exportsLine names⟩

end SnippetService.Wasm
