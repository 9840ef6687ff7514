import SnippetService.Text.Blank
import SnippetService.Text.Casing
/-!
The families of languages that the service runs, and the tags by which snippets name them.
-/
namespace SnippetService

inductive Family where
  | python | javascript | wasm
  deriving DecidableEq

namespace Family

def name : Family → String
  | python => "python"
  | javascript => "javascript"
  | wasm => "wasm"

def all : List Family := [python, javascript, wasm]

/-- The family of a name. -/
def ofName? (s : String) : Option Family := all.find? fun f => f.name == s

/-- The tags of languages, with the families that run them. Typed scripts are run as they are. -/
def tags : List (String × Family) :=
  [("python", python), ("py", python), ("javascript", javascript), ("js", javascript),
    ("typescript", javascript), ("ts", javascript), ("wasm", wasm), ("wat", wasm)]

/-- The family of a tag, whatever its case and the blanks around it. A snippet without a tag is run by
`wasm` if it carries a binary, and by `python` otherwise. -/
def resolve (tag : Option Text) (hasBinary : Bool) : Option Family :=
  match tag with
  | none => some (if hasBinary then wasm else python)
  | some s =>
    if isBlankText s then some (if hasBinary then wasm else python)
    else s.plain?.bind fun s => tags.lookup (Casing.toLower (strip s))

end Family

end SnippetService
