import SnippetService.Text.Point
/-!
Blank characters: those that are dropped around a tag, a number or a snippet, and that make a snippet
count as empty.
-/
namespace SnippetService

/-- The blank characters: spaces of every width, line and paragraph ends, and the separators of the
control range. -/
def isBlank (c : Char) : Bool :=
  let n := c.toNat
  (9 ≤ n && n ≤ 13) || (28 ≤ n && n ≤ 32) || n == 0x85 || n == 0xA0 || n == 0x1680 ||
    (0x2000 ≤ n && n ≤ 0x200A) || n == 0x2028 || n == 0x2029 || n == 0x202F || n == 0x205F ||
    n == 0x3000

/-- The characters without the blanks around them. -/
def stripChars (cs : List Char) : List Char :=
  ((cs.dropWhile isBlank).reverse.dropWhile isBlank).reverse

/-- A text without the blanks around it. -/
def strip (s : String) : String := String.ofList (stripChars s.toList)

/-- Whether a code point is a blank character. -/
def Point.isBlank (p : Point) : Bool := p.char?.any SnippetService.isBlank

/-- A text without the blanks around it. -/
def stripText (s : Text) : Text :=
  ((s.dropWhile Point.isBlank).reverse.dropWhile Point.isBlank).reverse

/-- Whether a text holds nothing but blanks. -/
def isBlankText (s : Text) : Bool := s.all Point.isBlank

/-- Whether a character is white space around a number; the separators of information are not. -/
def isPadding (c : Char) : Bool := isBlank c && !(28 ≤ c.toNat && c.toNat ≤ 31)

/-- The characters without the white space around them. -/
def trimChars (cs : List Char) : List Char :=
  ((cs.dropWhile isPadding).reverse.dropWhile isPadding).reverse

/-- The parts of a text between the places where a character stands. -/
def splitAt (separator : Char) : List Char → List (List Char)
  | [] => [[]]
  | c :: rest =>
    if c == separator then [] :: splitAt separator rest
    else match splitAt separator rest with
      | [] => [[c]]
      | part :: parts => (c :: part) :: parts

end SnippetService
