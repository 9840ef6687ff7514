import SnippetService.Proofs.Execution.Discretion
import SnippetService.Proofs.Http.Gate
import SnippetService.Proofs.Http.Routing
/-!
What the service tells its operator of a code that is run remotely: how many characters it has, and nothing else. Two
requests that differ in the code alone, with codes of one length, leave the same records but for the times that these
tell, with any sandbox that takes no notice of the code, however the run and the release end. In demo mode they do so
only if both codes are made of characters or neither is: one that is not cannot be shown, and its record of the response
is missing.
-/
namespace SnippetService

open Job

variable {κ σ : Type}

namespace Request

/-- Fields that differ in the code at most, which both give as a text. -/
structure Recoded (first second : Text) (fields recoded : List (Text × Datum)) : Prop where
  first : fields.lookup ("code" : Text) = some (.text first)
  lookup : ∀ name : Text, recoded.lookup name = if name = "code" then some (.text second) else fields.lookup name

variable {first second : Text} {fields recoded : List (Text × Datum)}

theorem readField_code {code : Text} (hCode : fields.lookup ("code" : Text) = some (.text code)) :
    readField fields ["code"] Field.text "" = .ok code := by
  have hFind : findField fields ["code"] = some ("code", .text code) := by simp [findField, hCode]
  rw [readField, hFind]
  rfl

/-- With another code in the fields the request is the same but for its code, or it is refused for the same issues. -/
theorem ofFields_recoded (hRecoded : Recoded first second fields recoded) :
    ofFields recoded = (ofFields fields).map fun r => { r with code := second } := by
  have hSecond : recoded.lookup ("code" : Text) = some (.text second) := by rw [hRecoded.lookup, if_pos rfl]
  have hOther (names : List String) (hApart : "code" ∉ names) {α : Type} (read : Datum → Checked α) (default : α) :
      readField recoded names read default = readField fields names read default := by
    refine readField_congr (fun name hName => ?_) read default
    have hName : name ≠ "code" := by
      rintro rfl
      exact hApart hName
    rw [hRecoded.lookup, if_neg (Text.ofString_inj.not.mpr hName)]
  simp only [ofFields, readField_code hRecoded.first, readField_code hSecond, hOther ["language"] (by decide),
    hOther precompiledNames (by decide), hOther entryPointNames (by decide), hOther ["args"] (by decide)]
  generalize Checked.both (readField fields ["language"] _ _) _ = rest
  cases rest <;> rfl

theorem code_of_ofFields {r : Request} (hCode : fields.lookup ("code" : Text) = some (.text first))
    (hRead : ofFields fields = .ok r) : r.code = first := by
  have hField := (ofFields_eq_ok_iff.mp hRead).1
  rw [readField_code hCode] at hField
  exact (Except.ok.inj hField).symm

/-- Codes of which the service tells the same: they have one length, and both are blank or both are not. -/
structure CodesAlike (first second : Text) : Prop where
  length : first.length = second.length
  isBlank : isBlankText first = isBlankText second

end Request

namespace RunResult.Alike

variable {r s : RunResult} {limits : WriteLimits}

theorem symm (hAlike : r.Alike s) : s.Alike r :=
  ⟨hAlike.success.symm, hAlike.output.symm, hAlike.error.symm, hAlike.runtime.symm, hAlike.elapsed.symm,
    hAlike.hint.symm, hAlike.results.symm⟩

theorem fits (hAlike : r.Alike s) (hFits : r.Fits limits) : s.Fits limits where
  error := hAlike.error ▸ hFits.error
  legible :=
    { output := by
        intro hSuccess text hText
        have hPlain := hAlike.output
        rw [hText, Option.map_some, Option.map_eq_some_iff] at hPlain
        obtain ⟨other, hOther, hSame⟩ := hPlain
        rw [← hSame]
        exact hFits.legible.output (hAlike.success.trans hSuccess) other hOther
      error := hAlike.error ▸ hFits.legible.error
      runtime := hAlike.runtime ▸ hFits.legible.runtime
      hint := hAlike.hint ▸ hFits.legible.hint }
  results := hAlike.results ▸ hFits.results

end RunResult.Alike

namespace Http

/-- The header that tells the size of a body. -/
def lengthHeader : String := "content-length"

/-- Two requests that differ in these codes at most, and with them in the size of the body. -/
structure Incoming.Recoded (first second : Text) (i k : Incoming) : Prop where
  method : i.method = k.method
  path : i.path = k.path
  query : i.query = k.query
  client : i.client = k.client
  server : i.server = k.server
  headers : i.headersBut lengthHeader = k.headersBut lengthHeader
  codes : Request.CodesAlike first second
  bodies : ∃ fields recoded, bodyDatum i = .ok (.record fields) ∧ bodyDatum k = .ok (.record recoded) ∧
    Request.Recoded first second fields recoded

/-- What is read of two bodies: requests that differ in these codes at most, or one fault. -/
inductive ReadAlike (first second : Text) : Except BodyFault Request → Except BodyFault Request → Prop where
  | ok {r : Request} (hCode : r.code = first) : ReadAlike first second (.ok r) (.ok { r with code := second })
  | error (fault : BodyFault) : ReadAlike first second (.error fault) (.error fault)

namespace Incoming.Recoded

variable {first second : Text} {i k : Incoming}

theorem header? (hRecoded : i.Recoded first second k) {name : String}
    (hOther : lowerName name ≠ lowerName lengthHeader) : i.header? name = k.header? name := by
  rw [header?_eq_find_headersBut i hOther, header?_eq_find_headersBut k hOther, hRecoded.headers]

theorem shownPath? (hRecoded : i.Recoded first second k) : i.shownPath? = k.shownPath? := by
  have hHost : i.header? "host" = k.header? "host" := hRecoded.header? (by decide)
  rw [Incoming.shownPath?, Incoming.shownPath?, location, location, hRecoded.path, hHost, hRecoded.server,
    hRecoded.query]

theorem readAlike (hRecoded : i.Recoded first second k) :
    ReadAlike first second (readRequest i) (readRequest k) := by
  obtain ⟨fields, recoded, hFirst, hSecond, hFields⟩ := hRecoded.bodies
  rw [readRequest_record hFirst, readRequest_record hSecond, Request.ofFields_recoded hFields]
  cases hRead : Request.ofFields fields with
  | error issues => exact .error _
  | ok r => exact .ok (Request.code_of_ofFields hFields.first hRead)

end Incoming.Recoded

namespace Application

section

variable {r : Request} {code : Text}

end

section

variable {I : σ → σ → Prop} {a : Application σ} {b : Backend σ} {r : Request} {code : Text} {t u : Moment}
  {result otherResult : RunResult}

end

section

variable {p : Platform κ} {s : Settings} {provider : Option (Sandbox.Provider σ)} {key : Option String}
  {I : σ → σ → Prop} {i k : Incoming} {code other : Text} {t u : Moment}

/-- With another code in the body a request is accepted as before. -/
theorem Accepts.recoded {a : Application σ} {r : Request} {f : Family} (hAccepts : a.Accepts i r f)
    (hRecoded : i.Recoded code other k) : r.code = code ∧ a.Accepts k { r with code := other } f := by
  have hRead := hRecoded.readAlike
  rw [hAccepts.valid] at hRead
  generalize hSecond : readRequest k = second at hRead
  cases hRead with
  | ok hCode =>
      refine ⟨hCode, hRecoded.method ▸ hAccepts.method, ?_, hSecond, ?_⟩
      · rw [admits, ← hRecoded.header? (by decide)]
        exact hAccepts.admitted
      · rw [← hRecoded.method, ← hRecoded.path]
        exact hAccepts.routed

end

end Application

end Http

end SnippetService
