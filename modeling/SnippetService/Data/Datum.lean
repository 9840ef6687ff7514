import SnippetService.Numeric.Layout
import SnippetService.Text.Quoted
/-!
Data that comes and goes without a fixed shape: request bodies, arguments, and what a sandbox returns.
-/
namespace SnippetService

inductive Datum where
  | null
  | boolean (b : Bool)
  | integer (n : Int)
  | real (x : Float)
  | text (s : Text)
  | bytes (data : List UInt8)
  | list (items : List Datum)
  /-- Named fields in the order in which they were added. -/
  | record (fields : List (Text × Datum))
  /-- An object known only by its attributes and by the text that shows it. -/
  | object (attributes : List (Text × Datum)) (shown : Text)
  deriving Inhabited

namespace Datum

/-- Whether a value counts as true: numbers other than zero, and whatever is not empty. -/
def truthy : Datum → Bool
  | null => false
  | boolean b => b
  | integer n => n != 0
  | real x => x != 0.0
  | text s => !s.isEmpty
  | bytes data => !data.isEmpty
  | list items => !items.isEmpty
  | record fields => !fields.isEmpty
  | object _ _ => true

/-- A field of a record. -/
def field? (d : Datum) (name : Text) : Option Datum :=
  match d with
  | record fields => fields.lookup name
  | _ => none

/-- A field of a record; one that is missing is null. -/
def field (d : Datum) (name : Text) : Datum := (d.field? name).getD null

/-- The text of a whole number. -/
def intText (n : Int) : String := toString n

mutual

/-- The text that shows a value inside others. -/
def shown : Datum → Text
  | null => "None"
  | boolean b => if b then "True" else "False"
  | integer n => intText n
  | real x => NumberLayout.plain.writeDouble x
  | text s => Quoted.text s
  | bytes data => Quoted.bytes data
  | list items => "[" ++ Text.join ", " (shownItems items) ++ "]"
  | record fields => "\x7b" ++ Text.join ", " (shownFields fields) ++ "\x7d"
  | object _ s => s

def shownItems : List Datum → List Text
  | [] => []
  | d :: ds => shown d :: shownItems ds

def shownFields : List (Text × Datum) → List Text
  | [] => []
  | (name, d) :: fs => (Quoted.text name ++ ": " ++ shown d) :: shownFields fs

end

/-- The text that stands for a value on its own. -/
def display : Datum → Text
  | text s => s
  | d => d.shown

/-- What kind of value a message says that it found. -/
def className : Datum → String
  | null => "NoneType"
  | boolean _ => "bool"
  | integer _ => "int"
  | real _ => "float"
  | text _ => "str"
  | bytes _ => "bytes"
  | list _ => "list"
  | record _ => "dict"
  | object _ _ => "object"

/-- Put a field into a record: a field of that name is replaced where it stands. -/
def setField (fields : List (Text × Datum)) (name : Text) (d : Datum) :
    List (Text × Datum) :=
  if fields.any fun f => f.1 == name then
    fields.map fun f => if f.1 == name then (name, d) else f
  else fields ++ [(name, d)]

end Datum

end SnippetService
