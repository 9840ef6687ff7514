import SnippetService.Proofs.Data.Record
import SnippetService.Proofs.Text.Point
import SnippetService.Service.Request
/-!
The format of requests. A request that is written as a record reads as the request that it was, down to the kind of
every number. Two of the fields have an older name besides the one in use: the request is the same under either of
them, and where both are there the one in use decides.
-/
namespace SnippetService

namespace Checked

variable {α β : Type}

theorem within_ok (step : PathStep) (a : α) : within step (.ok a : Checked α) = .ok a := rfl

theorem within_eq_ok_iff {step : PathStep} {r : Checked α} {a : α} : within step r = .ok a ↔ r = .ok a := by
  cases r with
  | ok b => exact Iff.rfl
  | error issues =>
      constructor
      · intro hError
        cases hError
      · intro hError
        cases hError

theorem both_ok (a : α) (b : β) : both (.ok a) (.ok b) = .ok (a, b) := rfl

theorem both_eq_ok_iff {r : Checked α} {q : Checked β} {p : α × β} :
    r.both q = .ok p ↔ r = .ok p.1 ∧ q = .ok p.2 := by
  cases r <;> cases q <;> simp [both, Prod.ext_iff]

theorem map_eq_ok {r : Checked α} {f : α → β} {b : β} (hMap : r.map f = .ok b) : ∃ a, r = .ok a ∧ f a = b := by
  cases r with
  | error issues => cases hMap
  | ok a => exact ⟨a, rfl, Except.ok.inj hMap⟩

theorem optional_text (o : Option Text) :
    optional Field.text ((o.map Datum.text).getD .null) = .ok o := by
  cases o <;> rfl

theorem optional_whole (o : Option Nat) :
    optional Field.whole ((o.map fun n : Nat => Datum.integer n).getD .null) =
      .ok (o.map fun n : Nat => (n : Int)) := by
  cases o <;> rfl

theorem optional_list (o : Option (List Datum)) :
    optional Field.list ((o.map Datum.list).getD .null) = .ok o := by
  cases o <;> rfl

/-- Items that read as themselves are kept as they are. -/
theorem items_of_fixed {read : Datum → Checked Datum} {ds : List Datum} (hFixed : ∀ d ∈ ds, read d = .ok d) (i : Nat) :
    items read i ds = .ok ds := by
  induction ds generalizing i with
  | nil => rfl
  | cons d rest ih =>
      have hRest := ih (fun e hMem => hFixed e (List.mem_cons_of_mem d hMem)) (i + 1)
      rw [items, hFixed d List.mem_cons_self, hRest]
      rfl

/-- Whatever stands in a list of readings was read of one of the items. -/
theorem exists_of_items {read : Datum → Checked α} {ds : List Datum} {i : Nat} {found : List α} {a : α}
    (hItems : items read i ds = .ok found) (hMem : a ∈ found) : ∃ d ∈ ds, read d = .ok a := by
  induction ds generalizing i found with
  | nil =>
      cases hItems
      cases hMem
  | cons d rest ih =>
      rw [items] at hItems
      obtain ⟨⟨first, later⟩, hBoth, rfl⟩ := map_eq_ok hItems
      obtain ⟨hFirst, hLater⟩ := both_eq_ok_iff.mp hBoth
      rcases List.mem_cons.mp hMem with rfl | hMem
      · exact ⟨d, List.mem_cons_self, within_eq_ok_iff.mp hFirst⟩
      · obtain ⟨e, hRest, hRead⟩ := ih hLater hMem
        exact ⟨e, List.mem_cons_of_mem d hRest, hRead⟩

end Checked

namespace Datum

/-- A number, of either kind. -/
inductive IsNumber : Datum → Prop where
  | integer (n : Int) : IsNumber (.integer n)
  | real (x : Float) : IsNumber (.real x)

theorem IsNumber.number_eq {d : Datum} (hNumber : d.IsNumber) : Field.number d = .ok d := by
  cases hNumber <;> rfl

theorem isNumber_of_number {d e : Datum} (hRead : Field.number d = .ok e) : e.IsNumber := by
  unfold Field.number at hRead
  split at hRead
  · cases hRead
    exact .real _
  · cases hRead
    exact .integer _
  · split at hRead
    · cases hRead
      exact .integer _
    · cases hRead
      exact .real _
    · cases hRead

/-- The fields with one of them under another name, where it stands. -/
def rename (fields : List (Text × Datum)) (old new : Text) : List (Text × Datum) :=
  fields.map fun f => if f.1 = old then (new, f.2) else f

theorem lookup_rename {fields : List (Text × Datum)} {new : Text} (hFree : new ∉ names fields) (old key : Text) :
    (rename fields old new).lookup key =
      if key = new then fields.lookup old else if key = old then none else fields.lookup key := by
  induction fields with
  | nil => simp [rename]
  | cons f rest ih =>
      rcases f with ⟨name, d⟩
      rw [names, List.map_cons, List.mem_cons, not_or] at hFree
      obtain ⟨hOther, hRest⟩ := hFree
      rw [rename, List.map_cons, ← rename]
      by_cases hName : name = old
      · subst hName
        rw [if_pos rfl, lookup_cons_ite, ih hRest, lookup_cons_ite, lookup_cons_ite, if_pos rfl]
        grind
      · rw [if_neg hName, lookup_cons_ite, ih hRest, lookup_cons_ite, lookup_cons_ite, if_neg (Ne.symm hName)]
        grind

end Datum

namespace Request

variable {α : Type}

/-- The value under the first of some names that is there. -/
def valueUnder (fields : List (Text × Datum)) (names : List String) : Option Datum :=
  names.findSome? fun name => fields.lookup (Text.ofString name)

theorem findField_value (fields : List (Text × Datum)) (names : List String) :
    (findField fields names).map Prod.snd = valueUnder fields names := by
  simp [findField, valueUnder, List.map_findSome?, Function.comp_def]

theorem findField_congr {fields other : List (Text × Datum)} {names : List String}
    (hSame : ∀ name ∈ names, other.lookup (name : Text) = fields.lookup (name : Text)) :
    findField other names = findField fields names := by
  induction names with
  | nil => rfl
  | cons name rest ih =>
      have hRest := ih fun n hMem => hSame n (List.mem_cons_of_mem name hMem)
      unfold findField at hRest ⊢
      rw [List.findSome?_cons, List.findSome?_cons, hSame name List.mem_cons_self, hRest]

theorem readField_congr {fields other : List (Text × Datum)} {names : List String}
    (hSame : ∀ name ∈ names, other.lookup (name : Text) = fields.lookup (name : Text)) (read : Datum → Checked α)
    (default : α) :
    readField other names read default = readField fields names read default := by
  rw [readField, readField, findField_congr hSame]

/-- A field is what its value reads as, and the default where there is no value. -/
theorem readField_eq_ok_iff {fields : List (Text × Datum)} {names : List String} {read : Datum → Checked α}
    {default a : α} :
    readField fields names read default = .ok a ↔
      match valueUnder fields names with
      | some d => read d = .ok a
      | none => default = a := by
  rw [readField, ← findField_value]
  cases findField fields names with
  | none => exact ⟨Except.ok.inj, congrArg Except.ok⟩
  | some f => exact Checked.within_eq_ok_iff

/-- The names of the fields, each list in the order of preference. -/
def fieldNames : List (List String) := [["code"], ["language"], precompiledNames, entryPointNames, ["args"]]

theorem ofFields_eq_ok_iff {fields : List (Text × Datum)} {r : Request} :
    ofFields fields = .ok r ↔
      readField fields ["code"] Field.text "" = .ok r.code ∧
      readField fields ["language"] (Checked.optional Field.text) none = .ok r.language ∧
      readField fields precompiledNames (Checked.optional Field.text) none = .ok r.precompiled ∧
      readField fields entryPointNames (Checked.optional Field.text) none = .ok r.entryPoint ∧
      readField fields ["args"] numbers [] = .ok r.args := by
  constructor
  · intro hRead
    obtain ⟨⟨code, language, precompiled, entryPoint, args⟩, hParts, rfl⟩ := Checked.map_eq_ok hRead
    simpa only [Checked.both_eq_ok_iff] using hParts
  · rintro ⟨hCode, hLanguage, hPrecompiled, hEntryPoint, hArgs⟩
    simp only [ofFields, hCode, hLanguage, hPrecompiled, hEntryPoint, hArgs]
    rfl

/-- Fields with the same values are read as the same request. -/
theorem ofFields_eq_ok_congr {fields other : List (Text × Datum)}
    (hSame : ∀ names ∈ fieldNames, valueUnder other names = valueUnder fields names) (r : Request) :
    ofFields other = .ok r ↔ ofFields fields = .ok r := by
  simp only [fieldNames, List.forall_mem_cons] at hSame
  obtain ⟨hCode, hLanguage, hPrecompiled, hEntryPoint, hArgs, -⟩ := hSame
  simp only [ofFields_eq_ok_iff, readField_eq_ok_iff, hCode, hLanguage, hPrecompiled, hEntryPoint, hArgs]

theorem ofFields_congr {fields other : List (Text × Datum)}
    (hSame : ∀ names ∈ fieldNames, findField other names = findField fields names) :
    ofFields other = ofFields fields := by
  simp only [fieldNames, List.forall_mem_cons] at hSame
  obtain ⟨hCode, hLanguage, hPrecompiled, hEntryPoint, hArgs, -⟩ := hSame
  simp only [ofFields, readField, hCode, hLanguage, hPrecompiled, hEntryPoint, hArgs]

theorem isNumber_args {fields : List (Text × Datum)} {r : Request} (hRead : ofFields fields = .ok r) :
    ∀ a ∈ r.args, a.IsNumber := by
  obtain ⟨-, -, -, -, hArgs⟩ := ofFields_eq_ok_iff.mp hRead
  rw [readField_eq_ok_iff] at hArgs
  intro a hMem
  split at hArgs
  · next d _ =>
    rw [numbers] at hArgs
    cases hItems : Field.list d with
    | error issues =>
        rw [hItems] at hArgs
        cases hArgs
    | ok items =>
        rw [hItems] at hArgs
        obtain ⟨e, -, hNumber⟩ := Checked.exists_of_items hArgs hMem
        exact Datum.isNumber_of_number hNumber
  · rw [← hArgs] at hMem
    cases hMem

/-- A request whose arguments are numbers is read back from its record. -/
theorem read_toDatum {r : Request} (hArgs : ∀ a ∈ r.args, a.IsNumber) (kind : IssueKind) :
    read r.toDatum kind = .ok r := by
  have hNumbers : numbers (.list r.args) = .ok r.args :=
    Checked.items_of_fixed (fun a hMem => (hArgs a hMem).number_eq) 0
  refine ofFields_eq_ok_iff.mpr ?_
  simp only [readField_eq_ok_iff]
  exact ⟨rfl, Checked.optional_text _, Checked.optional_text _, Checked.optional_text _, hNumbers⟩

/-- The fields that have an older name besides the one in use. -/
inductive Spelled where
  | precompiled
  | entryPoint

namespace Spelled

/-- The name in use. -/
def current : Spelled → String
  | precompiled => "precompiledBytes"
  | entryPoint => "entryPoint"

def older : Spelled → String
  | precompiled => "wasmBytes"
  | entryPoint => "functionName"

/-- The name that the field has inside the program, which is taken as well. -/
def inner : Spelled → String
  | precompiled => "precompiled_bytes"
  | entryPoint => "entry_point"

/-- What a request has in the field. -/
def value (r : Request) : Spelled → Option Text
  | precompiled => r.precompiled
  | entryPoint => r.entryPoint

theorem distinct (s : Spelled) : [s.current, s.older, s.inner].Nodup := by
  cases s <;> decide

/-- The names of a field belong to no other one. -/
theorem owned (s : Spelled) :
    ∀ names ∈ fieldNames, names = [s.current, s.older, s.inner] ∨ s.current ∉ names ∧ s.older ∉ names := by
  cases s <;> decide

theorem readField_eq_ok (s : Spelled) {fields : List (Text × Datum)} {r : Request} (hRead : ofFields fields = .ok r) :
    readField fields [s.current, s.older, s.inner] (Checked.optional Field.text) none = .ok (s.value r) := by
  obtain ⟨-, -, hPrecompiled, hEntryPoint, -⟩ := ofFields_eq_ok_iff.mp hRead
  cases s with
  | precompiled => exact hPrecompiled
  | entryPoint => exact hEntryPoint

section

variable {s : Spelled} {fields other : List (Text × Datum)}

/-- A field that is there under its older name only has the value that it had under the one in use. -/
theorem valueUnder_rename (hFree : (s.older : Text) ∉ Datum.names fields) :
    ∀ names ∈ fieldNames,
      valueUnder (Datum.rename fields s.current s.older) names = valueUnder fields names := by
  have hLookup := Datum.lookup_rename hFree s.current
  intro names hNames
  rcases s.owned names hNames with rfl | ⟨hCurrent, hOlder⟩
  · have hDistinct := s.distinct
    have hNone : fields.lookup (s.older : Text) = none := Datum.lookup_eq_none hFree
    simp only [valueUnder, List.findSome?_cons, hLookup, hNone, Text.ofString_inj]
    cases hValue : fields.lookup (s.current : Text) <;> grind
  · rw [← findField_value, ← findField_value, findField_congr]
    intro name hName
    have hApart : name ≠ s.older ∧ name ≠ s.current :=
      ⟨fun hSame => hOlder (hSame ▸ hName), fun hSame => hCurrent (hSame ▸ hName)⟩
    rw [hLookup, if_neg (Text.ofString_inj.not.mpr hApart.1), if_neg (Text.ofString_inj.not.mpr hApart.2)]

/-- Where a field is there under the name in use, its older name is not looked at. -/
theorem findField_outranked (hSame : ∀ name : Text, name ≠ s.older → other.lookup name = fields.lookup name)
    {d : Datum} (hCurrent : fields.lookup (s.current : Text) = some d) :
    ∀ names ∈ fieldNames, findField other names = findField fields names := by
  intro names hNames
  rcases s.owned names hNames with rfl | ⟨-, hOlder⟩
  · have hApart : (s.current : Text) ≠ s.older := by cases s <;> decide
    simp only [findField, List.findSome?_cons, hSame _ hApart, hCurrent, Option.map_some]
  · refine findField_congr fun name hName => hSame name ?_
    intro hSpelled
    exact hOlder (Text.ofString_inj.mp hSpelled ▸ hName)

end

end Spelled

/-- A request that is read of any value has numbers for its arguments, and what is written for it, under the names in
use, reads as the same request. A record with a field under its older name reads as it does with the name in use.
Where the name in use is there, it decides: the request has what stands under it, and it makes no difference what
stands under the older name, or whether anything does. -/
theorem read_format (kind : IssueKind) :
    (∀ d r, read d kind = .ok r → (∀ a ∈ r.args, a.IsNumber) ∧
      (∃ fields, r.toDatum = .record fields ∧
        Datum.names fields = (["code", "language", "precompiledBytes", "entryPoint", "args"] : List Text)) ∧
      ∀ again, read r.toDatum again = .ok r) ∧
    ∀ (s : Spelled) (fields : List (Text × Datum)),
      ((s.older : Text) ∉ Datum.names fields → ∀ r,
        read (.record (Datum.rename fields s.current s.older)) kind = .ok r ↔ read (.record fields) kind = .ok r) ∧
      ∀ d, fields.lookup (s.current : Text) = some d →
        (∀ r, read (.record fields) kind = .ok r → Checked.optional Field.text d = .ok (s.value r)) ∧
        ∀ other, (∀ name : Text, name ≠ s.older → other.lookup name = fields.lookup name) →
          read (.record other) kind = read (.record fields) kind := by
  refine ⟨?_, fun s fields => ⟨?_, fun d hCurrent => ⟨?_, ?_⟩⟩⟩
  · intro d r hRead
    cases d with
    | record fields =>
        have hArgs := isNumber_args hRead
        exact ⟨hArgs, ⟨_, rfl, rfl⟩, read_toDatum hArgs⟩
    | _ => cases hRead
  · exact fun hFree => ofFields_eq_ok_congr (Spelled.valueUnder_rename hFree)
  · intro r hRead
    have hField := readField_eq_ok_iff.mp (s.readField_eq_ok hRead)
    rwa [valueUnder, List.findSome?_cons, hCurrent] at hField
  · exact fun other hSame => ofFields_congr (Spelled.findField_outranked hSame hCurrent)

/-- A body from an older client, with a truth value and a text for its numbers. -/
example :
    read (.record [("wasmBytes", .text "AA=="), ("args", .list [.boolean true, .text "7"])]) .notARecord =
      .ok { precompiled := some "AA==", args := [.integer 1, .integer 7] } := by
  rfl

end Request

end SnippetService
