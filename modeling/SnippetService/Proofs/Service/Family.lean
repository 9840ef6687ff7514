import SnippetService.Proofs.Text.Casing
import SnippetService.Service.Family
import SnippetService.Service.Request
/-!
Which family the tag of a request stands for. The rule is stated without the function that follows it. It gives at most
one family, takes no notice of the blanks around a tag nor of the case of its ASCII letters, and knows each family by
its name.
-/
namespace SnippetService

theorem Request.hasBinary_eq_false_iff (r : Request) :
    r.hasBinary = false ↔ r.precompiled = none ∨ r.precompiled = some "" := by
  unfold Request.hasBinary
  cases r.precompiled <;> simp

theorem Request.hasBinary_eq_true_iff (r : Request) :
    r.hasBinary = true ↔ ∃ text, r.precompiled = some text ∧ text ≠ "" := by
  unfold Request.hasBinary
  cases r.precompiled <;> simp

namespace Family

variable {r : Request} {tag : Option Text} {f g : Family}

/-- A tag that names no language: there is none, or it is blank. -/
def IsUnnamed (tag : Option Text) : Prop := ∀ t, tag = some t → isBlankText t = true

/-- The family that a tag stands for at a request. -/
inductive StandsFor (r : Request) : Option Text → Family → Prop
  /-- Without a language the module of a request is run. -/
  | binary {tag : Option Text} {text : Text} (hTag : IsUnnamed tag) (hText : r.precompiled = some text)
      (hSome : text ≠ "") : StandsFor r tag .wasm
  /-- Without a language and a module its code is run. -/
  | script {tag : Option Text} (hTag : IsUnnamed tag) (hNone : r.precompiled = none ∨ r.precompiled = some "") :
      StandsFor r tag .python
  | named {t : String} {f : Family} (hTag : isBlankText t = false) (hEntry : (Casing.toLower (strip t), f) ∈ tags) :
      StandsFor r (some t) f

theorem ofName?_eq_some_iff {name : String} {f : Family} : ofName? name = some f ↔ f.name = name := by
  constructor
  · intro hFind
    simpa using List.find?_some hFind
  · rintro rfl
    cases f <;> rfl

theorem ofName?_eq_none_iff {name : String} : ofName? name = none ↔ ∀ f : Family, f.name ≠ name := by
  simp only [Option.eq_none_iff_forall_ne_some, ne_eq, ofName?_eq_some_iff]

/-- No tag is listed twice. -/
theorem lookup_tags_iff {name : String} : tags.lookup name = some f ↔ (name, f) ∈ tags := by
  constructor
  · intro hLookup
    obtain ⟨before, after, hSplit, _⟩ := List.lookup_eq_some_iff.mp hLookup
    simp [hSplit]
  · intro hEntry
    simp only [tags, List.mem_cons, Prod.mk.injEq, List.not_mem_nil, or_false] at hEntry
    obtain ⟨rfl, rfl⟩ | ⟨rfl, rfl⟩ | ⟨rfl, rfl⟩ | ⟨rfl, rfl⟩ | ⟨rfl, rfl⟩ | ⟨rfl, rfl⟩ | ⟨rfl, rfl⟩ | ⟨rfl, rfl⟩ :=
      hEntry <;> decide

theorem resolve_unnamed (hTag : IsUnnamed tag) (hasBinary : Bool) :
    resolve tag hasBinary = some (if hasBinary then wasm else python) := by
  cases tag with
  | none => rfl
  | some t => rw [resolve, if_pos (hTag t rfl)]

theorem resolve_named {t : String} (hTag : isBlankText t = false) (hasBinary : Bool) :
    resolve (some t) hasBinary = tags.lookup (Casing.toLower (strip t)) := by
  rw [resolve, hTag, if_neg Bool.false_ne_true, Text.plain?_ofString, Option.bind_some]

/-- A tag that is no string stands for nothing. -/
theorem resolve_unwritable {t : Text} (hTag : t.isPlain = false) (hasBinary : Bool) :
    resolve (some t) hasBinary = none := by
  have hNamed : isBlankText t = false := by
    rw [Bool.eq_false_iff]
    exact fun hBlank => Bool.false_ne_true (hTag.symm.trans (isPlain_of_isBlankText hBlank))
  have hNone : t.plain? = none := by
    rw [Option.eq_none_iff_forall_ne_some]
    intro u hString
    rw [Text.plain?_eq_some_iff.mp hString, Text.isPlain_ofString] at hTag
    cases hTag
  rw [resolve, hNamed, if_neg Bool.false_ne_true, hNone, Option.bind_none]

/-- A tag is resolved to the family that it stands for, and to none if it stands for none. -/
theorem resolve_eq_some_iff : resolve tag r.hasBinary = some f ↔ StandsFor r tag f := by
  constructor
  · intro hResolve
    by_cases hTag : IsUnnamed tag
    · rw [resolve_unnamed hTag] at hResolve
      cases hBinary : r.hasBinary with
      | true =>
          obtain ⟨text, hText, hSome⟩ := r.hasBinary_eq_true_iff.mp hBinary
          rw [hBinary] at hResolve
          cases hResolve
          exact .binary hTag hText hSome
      | false =>
          rw [hBinary] at hResolve
          cases hResolve
          exact .script hTag (r.hasBinary_eq_false_iff.mp hBinary)
    · simp only [IsUnnamed, not_forall, Bool.not_eq_true] at hTag
      obtain ⟨t, rfl, hNamed⟩ := hTag
      cases hPlain : t.isPlain with
      | true =>
          obtain ⟨u, rfl⟩ := Text.isPlain_iff.mp hPlain
          rw [resolve_named hNamed] at hResolve
          exact .named hNamed (lookup_tags_iff.mp hResolve)
      | false =>
          rw [resolve_unwritable hPlain] at hResolve
          cases hResolve
  · intro hStands
    cases hStands with
    | binary hTag hText hSome =>
        rw [resolve_unnamed hTag, r.hasBinary_eq_true_iff.mpr ⟨_, hText, hSome⟩]
        rfl
    | script hTag hNone =>
        rw [resolve_unnamed hTag, r.hasBinary_eq_false_iff.mpr hNone]
        rfl
    | named hTag hEntry => rw [resolve_named hTag, lookup_tags_iff.mpr hEntry]

/-- A tag stands for one family at most. -/
theorem StandsFor.unique (hFirst : StandsFor r tag f) (hSecond : StandsFor r tag g) : f = g :=
  Option.some.inj ((resolve_eq_some_iff.mpr hFirst).symm.trans (resolve_eq_some_iff.mpr hSecond))

end Family

end SnippetService
