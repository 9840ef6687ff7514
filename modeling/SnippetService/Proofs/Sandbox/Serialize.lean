import SnippetService.Proofs.Data.Record
import SnippetService.Sandbox.Run
/-!
Which rich results come out as JSON. Only the outermost value of a result is looked at: bytes become their text and an
object the record of its known attributes, but what stands inside a list, a record or an attribute is passed on as it
is. So a result is JSON at every depth exactly if its parts are already; passing it on once more changes nothing.
-/
namespace SnippetService

namespace Datum

/-- A value that JSON has a form for, at every depth. -/
inductive IsJson : Datum → Prop where
  | null : IsJson .null
  | boolean (b : Bool) : IsJson (.boolean b)
  | integer (n : Int) : IsJson (.integer n)
  | real {x : Float} (hFinite : x.isFinite = true) : IsJson (.real x)
  | text (s : Text) : IsJson (.text s)
  | list {items : List Datum} (hItems : ∀ d ∈ items, IsJson d) : IsJson (.list items)
  | record {fields : List (Text × Datum)} (hFields : ∀ f ∈ fields, IsJson f.2) : IsJson (.record fields)

theorem isJson_list_iff {items : List Datum} : IsJson (.list items) ↔ ∀ d ∈ items, IsJson d :=
  ⟨fun | .list hItems => hItems, .list⟩

theorem isJson_record_iff {fields : List (Text × Datum)} : IsJson (.record fields) ↔ ∀ f ∈ fields, IsJson f.2 :=
  ⟨fun | .record hFields => hFields, .record⟩

theorem not_isJson_bytes (data : List UInt8) : ¬IsJson (.bytes data) := nofun

end Datum

namespace Sandbox

open Datum

/-- A result that comes out as JSON: it is JSON already, or bytes, or an object whose known attributes are. -/
inductive Passable : Datum → Prop where
  | plain {d : Datum} (hJson : IsJson d) : Passable d
  | bytes (data : List UInt8) : Passable (.bytes data)
  | object {attributes : List (Text × Datum)} {shown : Text}
      (hKnown : ∀ name ∈ resultFields, ∀ d, attributes.lookup name = some d → IsJson d) :
      Passable (.object attributes shown)

/-- The fields that are made of an object are its known attributes that are not null. -/
theorem mem_payload_iff {attributes : List (Text × Datum)} {name : Text} {d : Datum} :
    (name, d) ∈ payload attributes ↔ name ∈ resultFields ∧ attributes.lookup name = some d ∧ d ≠ .null := by
  rw [payload, List.mem_filterMap]
  constructor
  · rintro ⟨known, hKnown, hField⟩
    split at hField
    · cases hField
    · cases hField
    · next v hNull hLookup =>
      cases hField
      exact ⟨hKnown, hLookup, fun hSame => hNull (hSame ▸ rfl)⟩
  · rintro ⟨hKnown, hLookup, hSome⟩
    refine ⟨name, hKnown, ?_⟩
    rw [hLookup]
    cases d <;> first | rfl | exact absurd rfl hSome

/-- Null has a form, so only the attributes that make a field can be in the way. -/
theorem isJson_payload_iff {attributes : List (Text × Datum)} :
    (∀ f ∈ payload attributes, IsJson f.2) ↔
      ∀ name ∈ resultFields, ∀ d, attributes.lookup name = some d → IsJson d := by
  constructor
  · intro hFields name hName d hLookup
    by_cases hNull : d = .null
    · exact hNull ▸ .null
    · exact hFields _ (mem_payload_iff.mpr ⟨hName, hLookup, hNull⟩)
  · rintro hKnown ⟨name, d⟩ hField
    obtain ⟨hName, hLookup, -⟩ := mem_payload_iff.mp hField
    exact hKnown name hName d hLookup

theorem serialize_object (attributes : List (Text × Datum)) (shown : Text) :
    serialize (.object attributes shown) =
      if payload attributes = [] then .text shown else .record (payload attributes) := by
  rw [serialize]
  cases payload attributes <;> rfl

theorem passable_object_iff {attributes : List (Text × Datum)} {shown : Text} :
    Passable (.object attributes shown) ↔
      ∀ name ∈ resultFields, ∀ d, attributes.lookup name = some d → IsJson d :=
  ⟨fun | .object hKnown => hKnown, .object⟩

/-- What is passed on is a text, or a record or another value that was plain data before. -/
theorem serialize_serialize (d : Datum) : serialize (serialize d) = serialize d := by
  cases d with
  | object attributes shown =>
      rw [serialize_object]
      split <;> rfl
  | _ => rfl

/-- A result comes out as JSON at every depth exactly if what stands inside it is JSON already, and to pass it on once
more changes nothing. -/
theorem serialize_isJson_iff (d : Datum) :
    (IsJson (serialize d) ↔ Passable d) ∧ serialize (serialize d) = serialize d := by
  refine ⟨?_, serialize_serialize d⟩
  have hPlain (hSame : serialize d = d) (hOther : Passable d → IsJson d) : IsJson (serialize d) ↔ Passable d := by
    rw [hSame]
    exact ⟨.plain, hOther⟩
  cases d with
  | object attributes shown =>
      rw [serialize_object, passable_object_iff, ← isJson_payload_iff]
      split
      case isTrue hNone => simp [hNone, IsJson.text]
      case isFalse => exact isJson_record_iff
  | bytes data => exact iff_of_true (.text _) (.bytes data)
  | _ => exact hPlain rfl fun | .plain hJson => hJson

/-- Bytes become their text, but bytes in a list stay bytes. -/
theorem serialize_nested_bytes :
    serialize (.bytes [97, 98]) = .text "b'ab'" ∧
      serialize (.list [.bytes [97, 98]]) = .list [.bytes [97, 98]] ∧
      ¬IsJson (serialize (.list [.bytes [97, 98]])) := by
  refine ⟨congrArg Datum.text (by decide +kernel), rfl, fun hJson => ?_⟩
  exact not_isJson_bytes _ (isJson_list_iff.mp hJson _ (List.mem_singleton.mpr rfl))

end Sandbox

end SnippetService
