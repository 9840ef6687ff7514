import SnippetService.Data.Datum
/-!
The result of running a snippet, in the same shape for every backend.
-/
namespace SnippetService

structure RunResult where
  success : Bool
  output : Option Text
  /-- What went wrong: a text, unless a snippet has put something else in its place; null if nothing. -/
  error : Datum
  /-- The label of the backend that produced the result. -/
  runtime : Text
  /-- How many milliseconds the run took, if it was measured. -/
  elapsed : Option Nat := none
  hint : Option Text := none
  results : Option (List Datum) := none

namespace RunResult

/-- A failed result. -/
def failure (runtime error : Text) (hint : Option Text) : RunResult :=
  { success := false, output := none, error := .text error, runtime := runtime, hint := hint }

/-- A result with the time it took. -/
def timed (r : RunResult) (elapsed : Nat) : RunResult := { r with elapsed := some elapsed }

end RunResult

/-- A text, or another one if it is empty. -/
def orElseText (s fallback : Text) : Text := if s.isEmpty then fallback else s

/-- A text that is there and not empty. -/
def nonempty? (s : Text) : Option Text := if s.isEmpty then none else some s

/-- Lines one below the other. -/
def joinLines (lines : List Text) : Text := Text.join "\n" lines

end SnippetService
