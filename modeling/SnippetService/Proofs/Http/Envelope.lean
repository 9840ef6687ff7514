import SnippetService.Http.Application
import SnippetService.Proofs.Service.Request
import SnippetService.Proofs.Text.Point
/-!
Which results can be written as an envelope. The envelope is made and written after the backend is done, so a result
whose error is no text, whose texts are not made of characters, or whose rich results are beyond the limits is not
answered at all.
-/
namespace SnippetService

namespace RunResult

/-- A result whose texts are made of characters, as far as they are answered. -/
structure IsLegible (r : RunResult) : Prop where
  output : r.success = true → ∀ s, r.output = some s → s.isPlain = true
  error : ∀ s, Checked.optional Field.text r.error = .ok (some s) → s.isPlain = true
  runtime : r.runtime.isPlain = true
  hint : ∀ s, r.hint = some s → s.isPlain = true

/-- A result that can be written as an envelope: its error reads as a text, if there is one, its texts are made of
characters, and its rich results are within the limits. -/
structure Fits (limits : WriteLimits) (r : RunResult) : Prop where
  error : (Checked.optional Field.text r.error).isOk = true
  legible : r.IsLegible
  results : ∀ ds, r.results = some ds → (wireItems limits (some .null) limits.depth ds).isSome = true

variable {limits : WriteLimits} {r : RunResult}

@[simp]
theorem isLegible_timed (elapsed : Nat) : (r.timed elapsed).IsLegible ↔ r.IsLegible :=
  ⟨fun h => ⟨h.output, h.error, h.runtime, h.hint⟩, fun h => ⟨h.output, h.error, h.runtime, h.hint⟩⟩

@[simp]
theorem fits_timed (elapsed : Nat) : (r.timed elapsed).Fits limits ↔ r.Fits limits :=
  ⟨fun h => ⟨h.error, (isLegible_timed elapsed).mp h.legible, h.results⟩,
    fun h => ⟨h.error, (isLegible_timed elapsed).mpr h.legible, h.results⟩⟩

/-- A result whose error is a text or missing, and that has no rich results, fits if it is made of characters. -/
theorem fits_iff_isLegible (hError : r.error = .null ∨ ∃ s, r.error = .text s) (hResults : r.results = none) :
    r.Fits limits ↔ r.IsLegible := by
  refine ⟨Fits.legible, fun hLegible => ⟨?_, hLegible, fun ds hSome => ?_⟩⟩
  · rcases hError with h | ⟨s, h⟩ <;> rw [h] <;> rfl
  · rw [hResults] at hSome
    cases hSome

theorem isLegible_failure {runtime error : Text} {hint : Option Text} :
    (failure runtime error hint).IsLegible ↔
      error.isPlain = true ∧ runtime.isPlain = true ∧ ∀ s, hint = some s → s.isPlain = true := by
  refine ⟨fun h => ⟨h.error error rfl, h.runtime, h.hint⟩,
    fun ⟨hError, hRuntime, hHint⟩ => ⟨nofun, ?_, hRuntime, hHint⟩⟩
  intro s hSame
  cases hSame
  exact hError

theorem fits_failure {runtime error : Text} {hint : Option Text} :
    (failure runtime error hint).Fits limits ↔
      error.isPlain = true ∧ runtime.isPlain = true ∧ ∀ s, hint = some s → s.isPlain = true :=
  (fits_iff_isLegible (.inr ⟨error, rfl⟩) rfl).trans isLegible_failure

end RunResult

/-- The envelope of a result with the text of its error: output only where the run went well. -/
def RunResult.envelope (r : RunResult) (language : String) (error : Option Text) : Envelope where
  success := r.success
  output := if r.success then r.output else none
  error := error
  runtime := r.runtime
  language := language
  elapsed := r.elapsed.map fun n : Nat => (n : Int)
  hint := r.hint
  results := r.results

namespace Envelope

theorem atLeastZero_elapsed (o : Option Nat) :
    atLeastZero ((o.map fun n : Nat => Datum.integer n).getD .null) =
      .ok ((o.map fun n : Nat => Datum.integer n).getD .null) := by
  cases o with
  | none => rfl
  | some n => simp [atLeastZero]

theorem output_loose (r : RunResult) :
    (if r.loose.success.truthy then r.loose.output else .null) =
      ((if r.success then r.output else none).map Datum.text).getD .null := by
  cases hSuccess : r.success <;> simp [RunResult.loose, Datum.truthy, hSuccess]

/-- The fields of a result are what an envelope needs, all but the error, which may be anything. -/
theorem ofLoose_loose (r : RunResult) (language : String) :
    ofLoose r.loose (.text language) = .ok
      (check { r.loose with output := ((if r.success then r.output else none).map Datum.text).getD .null }
        (.text language)) := by
  have hElapsed : atLeastZero r.loose.elapsed = .ok r.loose.elapsed := atLeastZero_elapsed r.elapsed
  rw [ofLoose, hElapsed, output_loose]
  rfl

theorem ofLoose_ok {r : RunResult} {error : Option Text} (language : String)
    (hError : Checked.optional Field.text r.error = .ok error) :
    ofLoose r.loose (.text language) = .ok (.ok (r.envelope language error)) := by
  rw [ofLoose_loose]
  simp only [check, RunResult.loose, Checked.optional_text, Checked.optional_whole,
    Checked.optional_list, hError, Field.text, Field.truthValue, Checked.within_ok, Checked.both_ok]
  rfl

/-- An error that is no text is found wrong, whatever else there is. -/
theorem ofLoose_error {r : RunResult} {issues : List Issue} (language : String)
    (hError : Checked.optional Field.text r.error = .error issues) :
    ∃ found, ofLoose r.loose (.text language) = .ok (.error found) := by
  rw [ofLoose_loose]
  simp only [check, RunResult.loose, Checked.optional_text, Checked.optional_whole,
    Checked.optional_list, hError, Field.text, Field.truthValue, Checked.within_ok, Checked.both_ok]
  exact ⟨_, rfl⟩

theorem isSome_written (limits : WriteLimits) (e : Envelope) :
    (e.written limits).isSome = true ↔
      (∀ s ∈ e.texts, s.isPlain = true) ∧
        ∀ ds, e.results = some ds → (wireItems limits (some .null) limits.depth ds).isSome = true := by
  unfold written
  cases hTexts : e.texts.all Text.isPlain with
  | false =>
      have hSome : ¬∀ s ∈ e.texts, s.isPlain = true := by
        rw [← List.all_eq_true, hTexts]
        exact Bool.false_ne_true
      simp [hSome]
  | true =>
      have hEach := List.all_eq_true.mp hTexts
      cases e.results with
      | none => simpa using hEach
      | some ds => simpa using fun _ => hEach

/-- The envelope of a result can be written where the result fits. -/
theorem fits_iff_written {limits : WriteLimits} {r : RunResult} {error : Option Text} (language : String)
    (hError : Checked.optional Field.text r.error = .ok error) :
    r.Fits limits ↔ ((r.envelope language error).written limits).isSome = true := by
  rw [isSome_written]
  have hTexts : r.IsLegible ↔ ∀ s ∈ (r.envelope language error).texts, s.isPlain = true := by
    constructor
    · intro h s hText
      simp only [texts, RunResult.envelope, List.mem_append, Option.mem_toList, List.mem_cons, List.not_mem_nil,
        or_false] at hText
      rcases hText with ((hOutput | hSaid) | hRuntime | hLanguage) | hHint
      · split at hOutput
        · exact h.output ‹_› s hOutput
        · cases hOutput
      · exact h.error s (by rw [hError, hSaid])
      · exact hRuntime ▸ h.runtime
      · exact hLanguage ▸ Text.isPlain_ofString language
      · exact h.hint s hHint
    · intro h
      refine ⟨fun hSuccess s hOutput => h s ?_, fun s hSaid => h s ?_, h _ ?_, fun s hHint => h s ?_⟩
      · simp [texts, RunResult.envelope, hSuccess, hOutput]
      · rw [hError, Except.ok.injEq] at hSaid
        simp [texts, RunResult.envelope, hSaid]
      · simp [texts, RunResult.envelope]
      · simp [texts, RunResult.envelope, hHint]
  refine ⟨fun h => ⟨hTexts.mp h.legible, h.results⟩, fun h => ⟨?_, hTexts.mpr h.1, h.2⟩⟩
  rw [hError]
  rfl

end Envelope

namespace Http

/-- The names of the fields of every envelope. -/
def envelopeNames : List Text :=
  ["success", "output", "error", "runtime", "language", "executionTimeMs", "hint", "results"]

/-- A reply that carries an envelope. -/
def Reply.IsEnvelope (reply : Reply) (status : Nat) : Prop :=
  ∃ fields, reply = ⟨status, .json (.record fields)⟩ ∧ Datum.names fields = envelopeNames

namespace Application

variable {σ : Type}

theorem envelopeOf_ok (b : Backend σ) {r : RunResult} {error : Option Text}
    (hError : Checked.optional Field.text r.error = .ok error) :
    envelopeOf b r = .ok (r.envelope b.language error) := by
  rw [envelopeOf, Envelope.ofLoose_ok b.language hError]
  rfl

theorem envelopeOf_unfit (b : Backend σ) {r : RunResult} {issues : List Issue}
    (hError : Checked.optional Field.text r.error = .error issues) :
    envelopeOf b r = .error (fault "The result does not fit the envelope") := by
  obtain ⟨found, hFound⟩ := Envelope.ofLoose_error b.language hError
  rw [envelopeOf, hFound]
  rfl

theorem envelopeReply_written (a : Application σ) (status : Nat) {e : Envelope}
    (hWritten : (e.written a.envelopeLimits).isSome = true) :
    ∃ reply, a.envelopeReply status e = .ok reply ∧ reply.IsEnvelope status := by
  obtain ⟨w, hWritten⟩ := Option.isSome_iff_exists.mp hWritten
  refine ⟨⟨status, .json w.toDatum⟩, by rw [envelopeReply, hWritten], ?_⟩
  exact ⟨_, rfl, rfl⟩

end Application

end Http

end SnippetService
