import Mathlib.Data.List.Forall2
import SnippetService.Proofs.Text.Point
import SnippetService.Wasm.Engine
/-!
The functions that a module exports. A program that has been loaded and linked can call each of them, so the names
that an engine looks at are the names of the module, in the order in which it declares them. They decide what a run
invokes.
-/
namespace SnippetService.Wasm

/-- The names of the functions that a module exports, in the order of its declarations. -/
def Module.functionNames (m : Module) : List String :=
  (m.exports.filter fun e => e.kind == .function).map (·.name)

theorem eq_ok_of_toOption {ε α : Type} {r : Except ε α} {a : α} (hSome : r.toOption = some a) : r = .ok a := by
  cases r with
  | ok b => exact congrArg Except.ok (Option.some.inj hSome)
  | error f => cases hSome

/-- What a traversal gives belongs to what it went through, place by place. -/
theorem forall₂_of_mapM_ok {α β : Type} {f : α → Except Failure β} {as : List α} {bs : List β}
    (hMap : as.mapM f = .ok bs) : List.Forall₂ (fun a b => f a = .ok b) as bs := by
  induction as generalizing bs with
  | nil =>
      cases hMap
      exact .nil
  | cons a rest ih =>
      rw [List.mapM_cons] at hMap
      cases hHead : f a with
      | error e =>
          rw [hHead] at hMap
          cases hMap
      | ok b =>
          rw [hHead] at hMap
          cases hTail : rest.mapM f with
          | error e =>
              rw [hTail] at hMap
              cases hMap
          | ok cs =>
              rw [hTail] at hMap
              cases hMap
              exact .cons hHead (ih hTail)

/-- A traversal that fails does so at the first of the things that it goes through on which it can. -/
theorem split_of_mapM_error {α β : Type} {f : α → Except Failure β} {as : List α} {e : Failure}
    (hMap : as.mapM f = .error e) :
    ∃ before a after, as = before ++ a :: after ∧ (∀ b ∈ before, ∃ c, f b = .ok c) ∧ f a = .error e := by
  induction as with
  | nil => cases hMap
  | cons a rest ih =>
      rw [List.mapM_cons] at hMap
      cases hHead : f a with
      | error g =>
          rw [hHead] at hMap
          cases hMap
          exact ⟨[], a, rest, rfl, nofun, hHead⟩
      | ok b =>
          rw [hHead] at hMap
          cases hTail : rest.mapM f with
          | error g =>
              rw [hTail] at hMap
              cases hMap
              obtain ⟨before, d, after, rfl, hBefore, hError⟩ := ih hTail
              exact ⟨a :: before, d, after, rfl, List.forall_mem_cons.mpr ⟨⟨b, hHead⟩, hBefore⟩, hError⟩
          | ok bs =>
              rw [hTail] at hMap
              cases hMap

theorem length_of_bodiesFrom_ok {m : Module} {bounds : Bounds} {i : Nat} {functions : List (Nat × Bytes)}
    {bodies : List Body} (hBodies : m.bodiesFrom bounds i functions = .ok bodies) :
    bodies.length = functions.length := by
  induction functions generalizing i bodies with
  | nil =>
      cases hBodies
      rfl
  | cons f rest ih =>
      rcases f with ⟨type, bytes⟩
      unfold Module.bodiesFrom at hBodies
      split at hBodies
      · cases hRest : m.bodiesFrom bounds (i + 1) rest with
        | error e =>
            rw [hRest] at hBodies
            cases hBodies
        | ok others =>
            rw [hRest] at hBodies
            cases hBodies
            rw [List.length_cons, List.length_cons, ih hRest]
      · cases hBodies

/-- What it means for a program that it has been loaded. -/
theorem load_ok {bounds : Bounds} {bytes : Bytes} {p : Program} (hLoad : Program.load bounds bytes = .ok p) :
    p.module.isValid bounds = true ∧ p.bodies.length = p.module.functions.length := by
  unfold Program.load at hLoad
  split at hLoad
  · cases hLoad
  · rename_i m hRead
    split at hLoad
    · rename_i hValid
      dsimp only at hLoad
      cases hBodies : m.bodiesFrom bounds (m.functionCount - m.functions.length) (m.functions.zip m.code) with
      | error e =>
          rw [hBodies] at hLoad
          cases hLoad
      | ok bodies =>
          rw [hBodies] at hLoad
          cases hLoad
          refine ⟨hValid, ?_⟩
          have hCode : m.code.length = m.functions.length := by
            simp only [Module.isValid, Bool.and_eq_true, beq_iff_eq] at hValid
            exact hValid.1.2
          rw [length_of_bodiesFrom_ok hBodies, List.length_zip, hCode, Nat.min_self]
    · cases hLoad

/-- Only functions can be imported. -/
theorem isFunction_of_callee_ok {types : List FunctionType} {i : Import} {c : Callee}
    (hCallee : i.callee types = .ok c) : ∃ t, i.kind = .function t := by
  unfold Import.callee at hCallee
  split at hCallee
  · rename_i h t hNamed hKind
    exact ⟨t, hKind⟩
  · cases hCallee

/-- Where all imports are found, a module has them and its own functions, and no others. -/
theorem functionCount_eq {m : Module} {host : List Callee}
    (hFound : List.Forall₂ (fun i c => i.callee m.types = .ok c) m.imports host) :
    m.functionCount = host.length + m.functions.length := by
  rw [Module.functionCount, Module.functionTypes, List.length_append]
  congr 1
  generalize m.imports = imports at hFound
  induction hFound with
  | nil => rfl
  | cons hCallee _ ih =>
      obtain ⟨t, hKind⟩ := isFunction_of_callee_ok hCallee
      simp [hKind, ih]

/-- A linked program has as many functions as its module. -/
theorem size_link {bounds : Bounds} {bytes : Bytes} {p : Program} {host : List Callee}
    (hLoad : Program.load bounds bytes = .ok p) (hHost : p.module.hostFunctions = .ok host) (env : Surroundings) :
    (p.link env host).fixture.functions.size = p.module.functionCount := by
  rw [functionCount_eq (forall₂_of_mapM_ok hHost), ← (load_ok hLoad).2]
  simp [Program.link]

/-- Every exported function is there. -/
theorem index_lt_size {bounds : Bounds} {bytes : Bytes} {p : Program} {host : List Callee}
    (hLoad : Program.load bounds bytes = .ok p) (hHost : p.module.hostFunctions = .ok host) (env : Surroundings)
    {e : Export} (hExport : e ∈ p.module.exports) (hKind : e.kind = .function) :
    e.index < (p.link env host).fixture.functions.size := by
  have hValid := (load_ok hLoad).1
  simp only [Module.isValid, Bool.and_eq_true, List.all_eq_true] at hValid
  have hFits : p.module.exportFits e = true := by grind
  rw [Module.exportFits, hKind] at hFits
  rw [size_link hLoad hHost]
  exact of_decide_eq_true hFits

/-- The functions that a linked program offers are those that its module exports. -/
theorem names_exports {bounds : Bounds} {bytes : Bytes} {p : Program} {host : List Callee}
    (hLoad : Program.load bounds bytes = .ok p) (hHost : p.module.hostFunctions = .ok host) (env : Surroundings) :
    (p.link env host).exports.map (·.1) = p.module.functionNames := by
  have hThere : ∀ e ∈ p.module.exports, e.kind = .function →
      e.index < (p.link env host).fixture.functions.size :=
    fun e hExport hKind => index_lt_size hLoad hHost env hExport hKind
  change ((p.module.exports.filterMap _).map _) = _
  rw [Module.functionNames]
  generalize p.module.exports = exports at hThere
  induction exports with
  | nil => rfl
  | cons e rest ih =>
      have hRest := ih fun e hMem => hThere e (List.mem_cons_of_mem _ hMem)
      cases hKind : e.kind with
      | function =>
          have hIndex := hThere e List.mem_cons_self hKind
          simp [hKind, hIndex, hRest]
      | _ => simp [hKind, hRest]

/-- The part that an invoked function plays. -/
inductive Role where
  /-- It was asked for by its name. -/
  | named (name : String)
  | start
  | main

namespace Role

def name : Role → String
  | named name => name
  | start => startExport
  | main => mainExport

/-- The function that is invoked where none is asked for, or one that is not exported. -/
def usual (names : List String) : Option Role :=
  if startExport ∈ names then some start
  else if mainExport ∈ names then some main
  else none

/-- The function that is invoked, among the names of exported functions. -/
def chosen (names : List String) (requested : Option Text) : Option Role :=
  match requested.bind Text.plain? with
  | some name => if name ≠ "" ∧ name ∈ names then some (named name) else usual names
  | none => usual names

end Role

/-- The function behind an entry point, with the part that it plays. -/
def EntryPoint.target? : EntryPoint → Option (Role × Callee)
  | named name c => some (.named name, c)
  | start c => some (.start, c)
  | main c => some (.main, c)
  | listing => none

theorem lookup_of_mem {functions : List (String × Callee)} {name : String}
    (hMem : name ∈ functions.map (·.1)) : ∃ c, functions.lookup name = some c := by
  obtain ⟨f, hFunction, rfl⟩ := List.mem_map.mp hMem
  rw [← Option.isSome_iff_exists, List.lookup_isSome_iff]
  exact ⟨f, hFunction, beq_self_eq_true f.1⟩

theorem lookup_of_not_mem {functions : List (String × Callee)} {name : String}
    (hMem : name ∉ functions.map (·.1)) : functions.lookup name = none := by
  rw [List.lookup_eq_none_iff]
  intro f hFunction
  rw [bne_iff_ne]
  rintro rfl
  exact hMem (List.mem_map_of_mem hFunction)

/-- The function that is asked for under a name. -/
def asked? (functions : List (String × Callee)) (requested : Option Text) :
    Option (String × Callee) :=
  ((requested.filter (!·.isEmpty)).bind Text.plain?).bind fun name => (functions.lookup name).map fun c => (name, c)

/-- Where no exported function is asked for, the usual ones are tried in turn. -/
theorem target_choose_usual {functions : List (String × Callee)} {requested : Option Text}
    (hNone : asked? functions requested = none) :
    (EntryPoint.choose functions requested).target? =
      (Role.usual (functions.map (·.1))).bind fun r =>
        (functions.lookup r.name).map fun c => (r, c) := by
  unfold asked? at hNone
  unfold EntryPoint.choose Role.usual
  rw [hNone]
  by_cases hStart : startExport ∈ functions.map (·.1)
  · obtain ⟨c, hLookup⟩ := lookup_of_mem hStart
    simp [hStart, hLookup, Role.name, EntryPoint.target?]
  · rw [if_neg hStart, lookup_of_not_mem hStart]
    by_cases hMain : mainExport ∈ functions.map (·.1)
    · obtain ⟨c, hLookup⟩ := lookup_of_mem hMain
      simp [hMain, hLookup, Role.name, EntryPoint.target?]
    · simp [hMain, lookup_of_not_mem hMain, EntryPoint.target?]

/-- The engine invokes the function that the names decide. -/
theorem target_choose (functions : List (String × Callee)) (requested : Option Text) :
    (EntryPoint.choose functions requested).target? =
      (Role.chosen (functions.map (·.1)) requested).bind fun r =>
        (functions.lookup r.name).map fun c => (r, c) := by
  cases hPlain : requested.bind Text.plain? with
  | none =>
      rw [Role.chosen, hPlain]
      apply target_choose_usual
      cases requested with
      | none => rfl
      | some s =>
          rw [Option.bind_some] at hPlain
          cases hEmpty : s.isEmpty <;> simp [asked?, Option.filter, hEmpty, hPlain]
  | some name =>
      rw [Role.chosen, hPlain]
      obtain ⟨s, rfl, hText⟩ := Option.bind_eq_some_iff.mp hPlain
      obtain rfl := Text.plain?_eq_some_iff.mp hText
      dsimp only
      by_cases hAsked : name ≠ "" ∧ name ∈ functions.map (·.1)
      · obtain ⟨c, hLookup⟩ := lookup_of_mem hAsked.2
        simp [EntryPoint.choose, EntryPoint.target?, Role.name, Option.filter, hAsked.1, hAsked.2, hLookup]
      · rw [if_neg hAsked]
        apply target_choose_usual
        by_cases hEmpty : name = ""
        · simp [asked?, Option.filter, hEmpty]
        · have hNone := lookup_of_not_mem fun hMem => hAsked ⟨hEmpty, hMem⟩
          simp [asked?, Option.filter, hEmpty, hNone]

end SnippetService.Wasm
