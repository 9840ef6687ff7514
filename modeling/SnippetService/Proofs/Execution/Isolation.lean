import SnippetService.Execution.Moment
import SnippetService.Proofs.Execution.Answer
import SnippetService.Proofs.Execution.Composed
import SnippetService.Sandbox.Engine
/-!
Calls that do not influence each other. Two executors are twins if their engines agree, call by call, on hosts that are
related at the start of each call; then their calls end alike but for the time. The engines of one memory, each with
a place of its own, are twins of an engine on a new host. So what calls made before have left in the memory makes no
difference to a call.
-/
namespace SnippetService

open Job

variable {σ ρ α β ι : Type}

namespace Job

/-- The ends of pieces of work done one after another, each on what the one before it has left. -/
def series (act : ι → Job σ α) : List ι → Journal σ → List (Except Failure α)
  | [], _ => []
  | i :: rest, j => (ending (act i) j).1 :: series act rest (after (act i) j)

/-- What is seen of the answers to requests that are handled one after another. With each request comes the time in
which it is handled. -/
def answers (view : α → β) (act : Moment → ι → Job σ α) (requests : List (Moment × ι)) (j : Journal σ) :
    List (Except Failure β) :=
  (series (fun q => act q.1 q.2) requests j).map fun r => r.map view

end Job

/-- The second list has the elements of the first, read at these places. -/
def Rearranged (order : List Nat) (as bs : List α) : Prop := bs.map some = order.map fun i => as[i]?

theorem Rearranged.map {order : List Nat} {as bs : List α} (f : α → β) (hOrder : Rearranged order as bs) :
    Rearranged order (as.map f) (bs.map f) := by
  have hSeen : (bs.map some).map (Option.map f) = (order.map fun i => as[i]?).map (Option.map f) := by
    rw [hOrder]
  simpa [Rearranged, Function.comp_def] using hSeen

/-- A request that has the same answer, alone, whatever the world adds to it. -/
def Steady (alone : Moment → ι → Except Failure β) (i : ι) : Prop := ∀ t u, alone t i = alone u i

/-- Requests that do not influence each other: whatever is handled before, each is answered as it is alone at that time.
So requests that are handled in another order have the same answers in that order, if the world adds to each what it
has added before, or if they are steady. -/
structure Isolated (view : α → β) (act : Moment → ι → Job σ α) (alone : Moment → ι → Except Failure β) : Prop where
  series : ∀ (requests : List (Moment × ι)) (j : Journal σ),
    answers view act requests j = requests.map fun q => alone q.1 q.2
  reordered : ∀ (order : List Nat) (first second : List (Moment × ι)) (j k : Journal σ),
    Rearranged order first second → Rearranged order (answers view act first j) (answers view act second k)
  rearranged : ∀ (order : List Nat) (first second : List (Moment × ι)) (j k : Journal σ),
    (∀ q ∈ first, Steady alone q.2) → Rearranged order (first.map Prod.snd) (second.map Prod.snd) →
      Rearranged order (answers view act first j) (answers view act second k)

/-- What stands in a list that is rearranged stood in it before. -/
theorem Rearranged.mem {order : List Nat} {as bs : List α} (hOrder : Rearranged order as bs) {b : α} (hMem : b ∈ bs) :
    b ∈ as := by
  have hSome : some b ∈ order.map fun i => as[i]? := hOrder ▸ List.mem_map_of_mem hMem
  obtain ⟨i, -, hPlace⟩ := List.mem_map.mp hSome
  exact List.mem_of_getElem? hPlace

/-- Requests are isolated if each is answered alike on every journal. -/
theorem Isolated.of_alone {view : α → β} {act : Moment → ι → Job σ α} {alone : Moment → ι → Except Failure β}
    (hAlone : ∀ t i j, (ending (act t i) j).1.map view = alone t i) : Isolated view act alone := by
  have hSeries (requests : List (Moment × ι)) (j : Journal σ) :
      answers view act requests j = requests.map fun q => alone q.1 q.2 := by
    induction requests generalizing j with
    | nil => rfl
    | cons q rest ih =>
        rw [answers, Job.series, List.map_cons, List.map_cons, hAlone]
        exact congrArg _ (ih _)
  have hStill (requests : List (Moment × ι)) (hSteady : ∀ q ∈ requests, Steady alone q.2) :
      (requests.map fun q => alone q.1 q.2) = (requests.map Prod.snd).map (alone ⟨0, fun _ => 0⟩) := by
    rw [List.map_map]
    exact List.map_congr_left fun q hMem => hSteady q hMem _ _
  have hReordered (order : List Nat) (first second : List (Moment × ι)) (j k : Journal σ)
      (hOrder : Rearranged order first second) :
      Rearranged order (answers view act first j) (answers view act second k) := by
    rw [hSeries, hSeries]
    exact hOrder.map _
  refine ⟨hSeries, hReordered, fun order first second j k hSteady hOrder => ?_⟩
  have hLater : ∀ q ∈ second, Steady alone q.2 := by
    intro q hMem
    obtain ⟨p, hFirst, hSame⟩ := List.mem_map.mp (hOrder.mem (List.mem_map_of_mem hMem))
    exact hSame ▸ hSteady p hFirst
  rw [hSeries, hSeries, hStill first hSteady, hStill second hLater]
  exact hOrder.map _

/-- A result but for the time that it took. -/
def RunResult.untimed (r : RunResult) : RunResult := { r with elapsed := r.elapsed.map fun _ => 0 }

/-- Results that differ in the time at most. -/
def RunResult.Same (r s : RunResult) : Prop := r.untimed = s.untimed

namespace Executor

/-- The engines of two executors, and the hosts that they are had on, or the one failure to have them. -/
inductive Equipped (x : Executor σ) (y : Executor ρ) :
    Except Failure (Engine σ) × Journal σ → Except Failure (Engine ρ) × Journal ρ → Prop where
  | refused (f : Failure) (j : Journal σ) (k : Journal ρ) : Equipped x y (.error f, j) (.error f, k)
  | had {e : Engine σ} {f : Engine ρ} {j : Journal σ} {k : Journal ρ} {I : σ → ρ → Prop} (hosts : I j.host k.host)
      (run : ∀ code options, Agree I (· = ·) (x.run e code options) (y.run f code options))
      (dispose : Agree I (· = ·) e.dispose f.dispose) : Equipped x y (.ok e, j) (.ok f, k)

/-- Executors of which one does as the other, on hosts that are related at the start of a call. -/
structure Twins (I : σ → ρ → Prop) (x : Executor σ) (y : Executor ρ) : Prop where
  runtime : x.runtime = y.runtime
  language : x.language = y.language
  hasInput : ∀ code options, x.hasInput code options = y.hasInput code options
  preflight : ∀ code options, Agree I (· = ·) (x.preflight code options) (y.preflight code options)
  build : ∀ {j : Journal σ} {k : Journal ρ}, I j.host k.host →
    Equipped x y (ending x.build j) (ending y.build k)

variable {x : Executor σ} {y : Executor ρ} {I : σ → ρ → Prop} {j : Journal σ} {k : Journal ρ}

/-- The parts of a call come to the same. -/
theorem Twins.parts (hTwins : x.Twins I y) (hHosts : I j.host k.host) (code : Option Text) (options : Options) :
    x.worked code options j = y.worked code options k ∧ x.disposed code options j = y.disposed code options k := by
  have hBuild := hTwins.build (j := j.noted .build) (k := k.noted .build) hHosts
  unfold worked disposed
  rcases hFirst : ending x.build (j.noted .build) with ⟨r, l⟩
  rcases hSecond : ending y.build (k.noted .build) with ⟨s, m⟩
  rw [hFirst, hSecond] at hBuild
  cases hBuild with
  | refused f => exact ⟨rfl, rfl⟩
  | @had e f _ _ _ hosts run dispose =>
      obtain ⟨hEnds, hAfter⟩ := run code options l m hosts
      have hDispose := dispose ((x.ran e code options l).noted .dispose)
        ((y.ran f code options m).noted .dispose) hAfter
      exact ⟨hEnds.eq, hDispose.1.eq⟩

/-- The end of a call depends on the executor by its label only, and on the time where it tells it. -/
theorem conclude_agrees (hRuntime : x.runtime = y.runtime) (elapsed other : Nat)
    (worked : Except Failure RunResult) (disposed : Except Failure Unit) :
    Agrees RunResult.Same (x.conclude elapsed worked disposed) (y.conclude other worked disposed) := by
  unfold conclude
  cases disposalEnd disposed with
  | error f => exact .error f
  | ok u =>
      have hAnswer : x.answerOf worked = y.answerOf worked := by
        rcases worked with f | r
        · cases f <;> simp [answerOf, answerTo, hRuntime]
        · rfl
      dsimp only
      rw [hAnswer]
      exact (Agrees.refl _).map fun r s hSame => by rw [hSame]; rfl

/-- Calls of twins end alike but for the time. -/
theorem Twins.execute (hTwins : x.Twins I y) (hHosts : I j.host k.host) (elapsed other : Nat) (code : Option Text)
    (options : Options) :
    Agrees RunResult.Same (ending (x.execute elapsed code options) j).1
      (ending (y.execute other code options) k).1 := by
  have hGiven := hTwins.hasInput code options
  cases hInput : x.hasInput code options with
  | false =>
      rw [hInput] at hGiven
      rw [ending_execute_rejected hInput, ending_execute_rejected hGiven.symm, hTwins.runtime]
      exact .ok rfl
  | true =>
      rw [hInput] at hGiven
      obtain ⟨hEnds, hAfter⟩ := hTwins.preflight code options j k hHosts
      rcases hFirst : ending (x.preflight code options) j with ⟨r, l⟩
      rcases hSecond : ending (y.preflight code options) k with ⟨s, m⟩
      rw [after, after, hFirst, hSecond] at hAfter
      rw [hFirst, hSecond] at hEnds
      cases hEnds with
      | error f =>
          simp only [Executor.execute, hInput, ← hGiven, Bool.not_true, Bool.false_eq_true, ↓reduceIte, ending_bind,
            hFirst, hSecond]
          exact .error f
      | @ok early _ hSame =>
          subst hSame
          cases early with
          | some early =>
              rw [ending_execute_early hInput hFirst, ending_execute_early hGiven.symm hSecond]
              exact .ok rfl
          | none =>
              rw [ending_execute_parts hInput hFirst, ending_execute_parts hGiven.symm hSecond]
              obtain ⟨hWorked, hDisposed⟩ := hTwins.parts hAfter code options
              rw [hWorked, hDisposed]
              exact conclude_agrees hTwins.runtime elapsed other _ _

/-- One call, of a code with its options. The executor may take from the world what its factory needs. -/
def call (x : Chance → Executor σ) (t : Moment) (c : Option Text × Options) : Job σ RunResult :=
  (x t.chance).execute t.elapsed c.1 c.2

/-- What a call comes to as the only one on a host, but for the time. -/
def alone (x : Chance → Executor σ) (host : σ) (t : Moment) (c : Option Text × Options) : Except Failure RunResult :=
  (ending (call x t c) ⟨host, [], []⟩).1.map RunResult.untimed

/-- Calls of an executor are isolated if it has a twin for which any host is as good as a certain one. -/
theorem isolated_of_twins {x : Chance → Executor σ} {y : Chance → Executor ρ} {I : σ → ρ → Prop}
    (hTwins : ∀ chance, (x chance).Twins I (y chance)) {host : ρ} (hHosts : ∀ s, I s host) :
    Isolated RunResult.untimed (call x) (alone y host) :=
  .of_alone fun t c j => Agrees.view_iff.mp ((hTwins t.chance).execute (hHosts j.host) t.elapsed t.elapsed c.1 c.2)

end Executor

/-- Work at one place of a memory of hosts. -/
def Job.onPlace (blank : ρ) (place : Nat) (x : Job ρ α) : Job (List ρ) α :=
  Job.within (fun memory => memory.getD place blank) (fun memory h => memory.set place h) x

/-- An engine that works at one place of a memory of hosts. -/
def Engine.at (e : Engine ρ) (blank : ρ) (place : Nat) : Engine (List ρ) where
  execute code input := Job.onPlace blank place (e.execute code input)
  dispose := Job.onPlace blank place e.dispose

/-- A factory on a memory of hosts, which fails where no new host can be had. Every engine that it gives has a place of
its own behind the others, and whatever is at the other places stays there. -/
def Engine.placing (e : Engine ρ) (fresh : Except Failure ρ) : Job (List ρ) (Engine (List ρ)) := do
  let blank ← Job.ofExcept fresh
  let memory ← Job.host
  Job.setHost (memory ++ [blank])
  return e.at blank memory.length

/-- Work at a place of a memory agrees with the same work on what is there. -/
theorem Job.Agree.place {x : Job ρ α} (hx : x.Oblivious) (blank : ρ) (place : Nat) :
    Agree (fun (memory : List ρ) h => memory[place]? = some h) (· = ·) (Job.onPlace blank place x) x := by
  intro j k hPlace
  have hThere : j.host.getD place blank = k.host := by
    rw [List.getD_eq_getElem?_getD, hPlace]
    rfl
  obtain ⟨hEnds, hAfter⟩ := hx (j.hosting (j.host.getD place blank)) k hThere
  have hLength : place < j.host.length := (List.getElem?_eq_some_iff.mp hPlace).1
  rw [after, Job.onPlace, ending_within]
  refine ⟨hEnds, ?_⟩
  change (j.host.set place _)[place]? = _
  rw [List.getElem?_set_self hLength, hAfter]

namespace Coordinator

/-- A coordinator looks at its engine only by running it. -/
theorem run_agree (c : Coordinator) {I : σ → ρ → Prop} {e : Engine σ} {f : Engine ρ} {buildX : Job σ (Engine σ)}
    {buildY : Job ρ (Engine ρ)} (hExecute : ∀ code input, Agree I (· = ·) (e.execute code input) (f.execute code input))
    (code : Option Text) (options : Options) :
    Agree I (· = ·) ((c.executor buildX).run e code options) ((c.executor buildY).run f code options) := by
  have hPerform (input : EngineInput) : Agree I (· = ·) (e.perform code input) (f.perform code input) :=
    (Agree.tell _ _).bind fun _ _ _ => hExecute code input
  cases c with
  | scripts => exact hPerform .nothing
  | plain => exact hPerform .nothing
  | bare => exact .fail _
  | modules =>
      refine (Agree.ofExcept (Agrees.refl _)).bind fun bytes _ hSame => ?_
      rw [hSame]
      exact hPerform _

/-- An engine of one memory does as one on a host of its own. -/
theorem twins_placing (c : Coordinator) {e : Engine ρ} (hEngine : e.Composed) (fresh : ρ) :
    (c.executor (e.placing (.ok fresh))).Twins (fun _ h => h = fresh) (c.executor (pure e)) where
  runtime := by cases c <;> rfl
  language := by cases c <;> rfl
  hasInput code options := by cases c <;> rfl
  preflight code options := by
    rw [(c.frugal _).preflight, (c.frugal _).preflight]
    exact .pure rfl
  build := by
    intro j k hFresh
    have hPlaced : ending (c.executor (e.placing (.ok fresh))).build j =
        (.ok (e.at fresh j.host.length), j.hosting (j.host ++ [fresh])) := by
      rw [executor_build]
      rfl
    have hOwn : ending (c.executor (pure e)).build k = (.ok e, k) := by
      rw [executor_build]
      rfl
    rw [hPlaced, hOwn]
    refine .had (I := fun memory h => memory[j.host.length]? = some h) ?_ ?_ ?_
    · rw [Journal.hosting_host, List.getElem?_concat_length, hFresh]
    · exact c.run_agree fun code input => .place (hEngine.execute code input).oblivious fresh _
    · exact .place hEngine.dispose.oblivious fresh _

/-- The executor of a coordinator that can have no engine. -/
def unequipped (c : Coordinator) (f : Failure) : Executor σ := c.executor (Job.fail f)

/-- Without a new host there is no engine in the memory either. -/
theorem twins_unplaced (c : Coordinator) (e : Engine ρ) (f : Failure) :
    (c.executor (e.placing (.error f))).Twins (fun _ (_ : σ) => True) (c.unequipped f) where
  runtime := by cases c <;> rfl
  language := by cases c <;> rfl
  hasInput code options := by cases c <;> rfl
  preflight code options := by
    rw [unequipped, (c.frugal _).preflight, (c.frugal _).preflight]
    exact .pure rfl
  build := by
    intro j k _
    rw [unequipped, executor_build, executor_build]
    exact .refused f j k

end Coordinator

namespace Sandbox

variable {κ : Type}

/-- A provider whose acts end alike whatever was done before. It may fail at any of them, and in any way. -/
structure Provider.IsFixed (p : Provider κ) : Prop where
  create : ∀ w v, (p.create w).1 = (p.create v).1
  run : ∀ code w v, (p.run code w).1 = (p.run code v).1
  kill : ∀ w v, (p.kill w).1 = (p.kill v).1

/-- Sessions that are both held, or both not. -/
def HeldAlike (s t : Session κ) : Prop := s.isHeld = t.isHeld

theorem onWorld_agree {act : κ → Except Failure α × κ} (hFixed : ∀ w v, (act w).1 = (act v).1) :
    Agree HeldAlike (· = ·) (onWorld act) (onWorld act) := by
  refine Agree.host.bind fun s t hHeld => (Agree.setHost ?_).bind fun _ _ _ => ?_
  · exact hHeld
  · rw [hFixed s.world t.world]
    exact Agree.ofExcept (Agrees.refl _)

theorem execute_agree {p : Provider κ} (hFixed : p.IsFixed) (code : Option Text) :
    Agree HeldAlike (· = ·) (execute p code) (execute p code) := by
  refine Agree.host.bind fun s t hHeld => ?_
  rw [hHeld]
  split
  · exact .fail _
  · exact (onWorld_agree (hFixed.run _)).bind fun r _ hSame => Agree.pure (congrArg Run.result hSame)

theorem dispose_agree {p : Provider κ} (hFixed : p.IsFixed) :
    Agree HeldAlike (· = ·) (dispose p) (dispose p) := by
  refine Agree.host.bind fun s t hHeld => ?_
  rw [hHeld]
  split
  · refine (Agree.modifyHost ?_).bind fun _ _ _ => (onWorld_agree hFixed.kill).bind fun _ _ _ => ?_
    · exact fun _ _ _ => rfl
    · exact (Agree.log _ _ _ _ _ _).mono fun _ _ _ => rfl
  · exact .pure rfl

/-- The executor of remote code does the same whatever the world has come to. -/
theorem twins_refl {provider : Option (Provider κ)} (hFixed : ∀ p, provider = some p → p.IsFixed)
    (key : Option String) :
    (executor provider key).Twins (fun _ _ => True) (executor provider key) where
  runtime := rfl
  language := rfl
  hasInput code options := rfl
  preflight code options := by
    dsimp only [executor]
    split
    · exact .pure rfl
    · exact (Agree.log _ _ _ _ _ _).bind fun _ _ _ => .pure rfl
  build := by
    intro j k _
    cases provider with
    | none => exact .refused _ j k
    | some p =>
        have hKind := hFixed p rfl
        have hCreate := hKind.create j.host.world k.host.world
        simp only [executor, build, onWorld, ending_bind, ending_host, ending_setHost, ending_ofExcept,
          ← hCreate]
        cases (p.create j.host.world).1 with
        | error f => exact .refused f _ _
        | ok u =>
            refine .had (I := HeldAlike) rfl (fun code options => ?_) (dispose_agree hKind)
            exact (Agree.tell _ _).bind fun _ _ _ => execute_agree hKind code

end Sandbox

end SnippetService
