/-!
Text as it is handed around: a sequence of code points, among which may be surrogates that stand for no
character. Such text has no encoding as bytes.
-/
namespace SnippetService

/-- A code point. A surrogate is given by its place among the surrogates. -/
inductive Point where
  | char (c : Char)
  | surrogate (place : Fin 0x800)
  deriving DecidableEq, Inhabited

namespace Point

/-- The number of a code point. -/
def toNat : Point → Nat
  | char c => c.toNat
  | surrogate place => 0xD800 + place

/-- The code point of a number; past the last one there is none. -/
def ofNat (n : Nat) : Point :=
  if 0xD800 ≤ n ∧ n ≤ 0xDFFF then surrogate (.ofNat 0x800 (n - 0xD800)) else char (.ofNat n)

/-- The character of a code point, if it stands for one. -/
def char? : Point → Option Char
  | char c => some c
  | surrogate _ => none

end Point

/-- A text as a list of code points. -/
abbrev Text := List Point

namespace Text

def ofChars (cs : List Char) : Text := cs.map Point.char

@[coe] def ofString (s : String) : Text := ofChars s.toList

instance : Coe String Text := ⟨ofString⟩

/-- The characters of a text, if all of its code points stand for characters. -/
def chars? : Text → Option (List Char)
  | [] => some []
  | .char c :: rest => (chars? rest).map (c :: ·)
  | .surrogate _ :: _ => none

/-- The string of a text, if it is one. -/
def plain? (s : Text) : Option String := s.chars?.map String.ofList

/-- Whether a text can be written as bytes. -/
def isPlain (s : Text) : Bool := s.all fun p => p.char?.isSome

/-- Several texts one after another with a separator between them. -/
def join (separator : Text) (parts : List Text) : Text := List.intercalate separator parts

end Text

end SnippetService
