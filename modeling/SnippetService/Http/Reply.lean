import SnippetService.Data.Datum
/-!
Replies to requests.
-/
namespace SnippetService.Http

/-- What a reply carries. -/
inductive Content where
  | json (d : Datum)
  | plain (s : String)

structure Reply where
  status : Nat
  content : Content

namespace Reply

/-- A reply that tells why a request was turned down. -/
def refusal (status : Nat) (detail : Text) : Reply :=
  ⟨status, .json (.record [("detail", .text detail)])⟩

/-- The reply when the service itself has failed. -/
def breakdown : Reply := ⟨500, .plain "Internal Server Error"⟩

/-- A reply as it goes out: one to a question about the head alone has no content. -/
def forMethod (r : Reply) (method : String) : Reply :=
  if method == "HEAD" then { r with content := .plain "" } else r

end Reply

end SnippetService.Http
