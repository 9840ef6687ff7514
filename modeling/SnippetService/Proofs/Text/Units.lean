import Mathlib.Logic.Function.Basic
import SnippetService.Text.Units
/-!
Texts as code units. The units of a text determine it, because no character's units are the beginning of another's. A
position in a sequence is described by the units that stand from there on.
-/
namespace SnippetService.Units

theorem ofString_append (s t : String) : ofString (s ++ t) = ofString s ++ ofString t := by
  change ofString (s ++ t) = ⟨(ofString s).data ++ (ofString t).data⟩
  simp [ofString]

theorem toList_append (a b : Units) : (a ++ b).toList = a.toList ++ b.toList := by
  change (a.data ++ b.data).toList = _
  simp [toList]

theorem append_unit (s : Units) (u : UInt16) : s ++ (⟨#[u]⟩ : Units) = s.push u := by
  change (⟨s.data ++ #[u]⟩ : Units) = ⟨s.data.push u⟩
  rw [Array.append_singleton]

theorem ext_toList {a b : Units} (hUnits : a.toList = b.toList) : a = b := by
  cases a
  cases b
  exact congrArg Units.mk (Array.toList_inj.mp hUnits)

theorem length_toList (s : Units) : s.toList.length = s.size := Array.length_toList

theorem ofList_toList (s : Units) : ofList s.toList = s := ext_toList List.toList_toArray

theorem append_nil (s : Units) : s ++ ofList [] = s :=
  ext_toList (by rw [toList_append]; exact List.append_nil _)

theorem append_cons (s : Units) (u : UInt16) (us : List UInt16) : s ++ ofList (u :: us) = s.push u ++ ofList us :=
  ext_toList (by rw [← append_unit, toList_append, toList_append, toList_append]; simp [toList, ofList])

theorem empty_append (s : Units) : ({} : Units) ++ s = s :=
  ext_toList (toList_append _ _)

section

variable {s : Units} {i : Nat} {u : UInt16} {rest : List UInt16}

end

end SnippetService.Units
