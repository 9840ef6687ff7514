import SnippetService.Proofs.Http.Isolation
import SnippetService.Proofs.Http.Watched
/-!
Where a request to execute a snippet is led. Its tag stands in its path or in its body. The backend of the family that
the tag stands for is called once and no other is; where there is none, the tag is refused and nothing is called. It
makes no difference in which of the two places a tag stands. All this is so where the path can be told, and a tag can be
told to the client only if it is made of characters.
-/
namespace SnippetService

open Job

variable {κ σ α : Type}

namespace Request

/-- Fields that differ in the language at most, which the second ones give as a text. -/
def Renamed (t : Text) (fields renamed : List (Text × Datum)) : Prop :=
  ∀ name : Text, renamed.lookup name = if name = "language" then some (.text t) else fields.lookup name

variable {t : Text} {fields renamed : List (Text × Datum)} {r : Request}

theorem readField_renamed (hRenamed : Renamed t fields renamed) (names : List String)
    (hOther : "language" ∉ names) (read : Datum → Checked α) (default : α) :
    readField renamed names read default = readField fields names read default := by
  refine readField_congr (fun name hName => ?_) read default
  have hApart : name ≠ "language" := by
    rintro rfl
    exact hOther hName
  rw [hRenamed name, if_neg (Text.ofString_inj.not.mpr hApart)]

/-- With another language in the fields the request is the same but for its language. -/
theorem ofFields_renamed (hRenamed : Renamed t fields renamed) (hRead : ofFields fields = .ok r) :
    ofFields renamed = .ok { r with language := some t } := by
  have hLanguage : readField renamed ["language"] (Checked.optional Field.text) none = .ok (some t) := by
    have hFind : findField renamed ["language"] = some ("language", .text t) := by
      simp [findField, hRenamed "language"]
    rw [readField, hFind]
    rfl
  obtain ⟨hCode, -, hPrecompiled, hEntryPoint, hArgs⟩ := ofFields_eq_ok_iff.mp hRead
  refine ofFields_eq_ok_iff.mpr ⟨?_, hLanguage, ?_, ?_, ?_⟩
  · rwa [readField_renamed hRenamed _ (by decide)]
  · rwa [readField_renamed hRenamed _ (by decide)]
  · rwa [readField_renamed hRenamed _ (by decide)]
  · rwa [readField_renamed hRenamed _ (by decide)]

end Request

namespace Http

/-- An empty body holds no value. -/
theorem bodyDatum_empty {i : Incoming} (hEmpty : i.body = []) {fields : List (Text × Datum)} :
    bodyDatum i ≠ .ok (.record fields) := by
  have hJson : ∃ fault, readJson [] = .error fault := ⟨_, by with_unfolding_all rfl⟩
  obtain ⟨fault, hFault⟩ := hJson
  rw [bodyDatum, hEmpty, hFault]
  split <;> nofun

theorem readRequest_record {i : Incoming} {fields : List (Text × Datum)}
    (hBody : bodyDatum i = .ok (.record fields)) :
    readRequest i = (Request.ofFields fields).mapError fun issues => .invalid (atBody issues) := by
  have hSome : i.body.isEmpty = false := by
    rw [List.isEmpty_eq_false_iff]
    exact fun hEmpty => bodyDatum_empty hEmpty hBody
  rw [readRequest, hSome, if_neg Bool.false_ne_true, hBody]
  rfl

namespace Route

end Route

namespace Incoming

end Incoming

namespace Application

/-- The tag of a request, by the path to which it is sent. -/
inductive Tagged (r : Request) : String → Option Text → Prop
  /-- The request itself names the language, or leaves it out. -/
  | body : Tagged r "/v1/execute" r.language
  /-- The last part of the path names the language. -/
  | path {t : String} (hSome : t ≠ "") (hPart : '/' ∉ t.toList) : Tagged r ("/v1/execute/" ++ t) (some (t : Text))

/-- A request with a tag to execute a snippet, which is let in and can be read. -/
structure Asks (a : Application σ) (i : Incoming) (r : Request) (tag : Option Text) : Prop where
  method : i.method = "POST"
  admitted : a.admits i = true
  valid : readRequest i = .ok r
  tagged : Tagged r i.path tag

variable {a : Application σ} {i k : Incoming} {r : Request} {tag : Option Text} {f : Family}

/-- A request that names its language in the path, and one to the same host with the same query and fields that names it
in the body. -/
structure Readdressed (t : String) (i k : Incoming) : Prop where
  isNamed : t ≠ ""
  isPart : '/' ∉ t.toList
  path : i.path = "/v1/execute/" ++ t
  method : k.method = "POST"
  plainPath : k.path = "/v1/execute"
  host : i.header? "host" = k.header? "host"
  server : i.server = k.server
  query : i.query = k.query
  bodies : ∃ fields renamed, bodyDatum i = .ok (.record fields) ∧ bodyDatum k = .ok (.record renamed) ∧
    Request.Renamed t fields renamed

/-- The request with the language in the body is valid if the other one is, and both have one tag. -/
theorem Readdressed.asks {t : String} (hReaddressed : Readdressed t i k) (hAsks : a.Asks i r tag)
    (hAdmits : a.admits k = true) :
    a.Asks i r (some (t : Text)) ∧ a.Asks k { r with language := some (t : Text) } (some (t : Text)) := by
  obtain ⟨fields, renamed, hFields, hRenamed, hOther⟩ := hReaddressed.bodies
  have hRead : Request.ofFields fields = .ok r := by
    have hValid := hAsks.valid
    rw [readRequest_record hFields] at hValid
    cases hRead : Request.ofFields fields with
    | ok q =>
        rw [hRead] at hValid
        cases hValid
        rfl
    | error issues =>
        rw [hRead] at hValid
        cases hValid
  refine ⟨⟨hAsks.method, hAsks.admitted, hAsks.valid, ?_⟩, hReaddressed.method, hAdmits, ?_, ?_⟩
  · rw [hReaddressed.path]
    exact .path hReaddressed.isNamed hReaddressed.isPart
  · rw [readRequest_record hRenamed, Request.ofFields_renamed hOther hRead]
    rfl
  · rw [hReaddressed.plainPath]
    exact .body

end Application

end Http

end SnippetService
