import SnippetService.Text.Point
/-!
Why a run can fail. Classified failures are expected and are answered with their own message; others
are answered with their text; a shutdown is no answer at all and passes through.
-/
namespace SnippetService

/-- The classes of expected failures. -/
inductive FailureClass where
  /-- No class of its own. -/
  | execution
  /-- The request carried nothing to run. -/
  | input
  /-- The snippet was rejected or aborted. -/
  | evaluation
  /-- The binary input is malformed or cannot be run. -/
  | load
  /-- A remote session could not be had. -/
  | provisioning
  /-- The service itself failed. -/
  | internal
  deriving DecidableEq

/-- What kind of thing went wrong when no class was foreseen. -/
inductive ErrorKind where
  | value
  | overflow
  | wrongType
  | missingAttribute
  | malformedJson
  | recursion
  | notImplemented
  | memory
  /-- An evaluation of a script ended by throwing. -/
  | script
  | other (name : String)
  deriving DecidableEq

inductive Failure where
  | classified (c : FailureClass) (message : Text) (hint : Option Text)
  | unexpected (kind : ErrorKind) (text : Text)
  /-- The process is asked to end. -/
  | shutdown (name : String) (text : Text)
  deriving DecidableEq

namespace Failure

/-- The text of a failure. -/
def text : Failure → Text
  | classified _ message _ => message
  | unexpected _ text => text
  | shutdown _ text => text

/-- Whether a failure can be turned into an answer. -/
def isAnswerable : Failure → Bool
  | shutdown _ _ => false
  | _ => true

end Failure

end SnippetService
