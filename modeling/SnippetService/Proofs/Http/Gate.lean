import SnippetService.Proofs.Http.Dispatch
/-!
The gate of the service. A request without the key is turned down before anything is known of it but where it came
from and where it goes; a request with the key is answered as if no key were asked for; and where none is asked for,
it makes no difference which key a request carries. But where a request goes has to be told before the key is looked
at, and where that cannot be told nobody is turned down.
-/
namespace SnippetService.Http

open Job

variable {σ : Type}

namespace Incoming

/-- The headers of a request but those of a name. -/
def headersBut (i : Incoming) (name : String) : List (String × String) :=
  i.headers.filter fun h => lowerName h.1 != lowerName name

/-- Two requests that agree in everything but their headers of one name. -/
structure SameBut (name : String) (i k : Incoming) : Prop where
  method : i.method = k.method
  path : i.path = k.path
  query : i.query = k.query
  headers : i.headersBut name = k.headersBut name
  body : i.body = k.body
  client : i.client = k.client
  server : i.server = k.server

/-- Headers of one name do not count where another is looked up. -/
theorem header?_eq_find_headersBut (i : Incoming) {name other : String}
    (hOther : lowerName other ≠ lowerName name) :
    i.header? other =
      ((i.headersBut name).find? fun h => lowerName h.1 == lowerName other).map (·.2) := by
  have hPass (h : String × String) :
      decide ((lowerName h.1 != lowerName name) = true ∧ (lowerName h.1 == lowerName other) = true) =
        (lowerName h.1 == lowerName other) := by
    by_cases hName : lowerName h.1 = lowerName other
    · simp [hName, hOther]
    · simp [hName]
  rw [header?, headersBut, List.find?_filter]
  simp only [hPass]

theorem SameBut.header? {name other : String} {i k : Incoming} (h : SameBut name i k)
    (hOther : lowerName other ≠ lowerName name) : i.header? other = k.header? other := by
  rw [header?_eq_find_headersBut i hOther, header?_eq_find_headersBut k hOther, h.headers]

/-- Where a request goes is told by its host, its path and nothing else. -/
theorem SameBut.shownPath? {name : String} {i k : Incoming} (h : SameBut name i k)
    (hHost : lowerName "host" ≠ lowerName name) : i.shownPath? = k.shownPath? := by
  rw [Incoming.shownPath?, Incoming.shownPath?, location, location, h.path, h.header? hHost, h.server, h.query]

end Incoming

namespace Application

end Application

end SnippetService.Http
