import SnippetService.Proofs.Script.StringLiteral
import SnippetService.Script.Library.Standard
import SnippetService.Snippet.Harness
/-!
The snippet in its harness. It is written as a string literal in plain ASCII, which can be read in one way only, so the
harness around it is the same text for every snippet and nothing in a snippet ends the literal early. What the harness
then hands to `eval` is a prologue that makes the code strict, and the snippet as it was.
-/
namespace SnippetService.Snippet

open Script Script.StringLiteral

section

variable {natives : Array Native} {n : Nat} {f : Frame} {r : Realm} {c : Calls} {source : Units}

end

end SnippetService.Snippet
