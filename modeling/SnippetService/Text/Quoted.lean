import SnippetService.Text.Point
import SnippetService.Text.Printable
/-!
Text in quotes as messages show it. Single quotes are used unless the text has some and no double
ones; what cannot be printed is escaped, and so are surrogates.
-/
namespace SnippetService.Quoted

def hexDigit (n : Nat) : Char := Char.ofNat (if n < 10 then 48 + n else 87 + n)

/-- The hexadecimal digits of a number, to a given count. -/
def hex : Nat → Nat → List Char
  | 0, _ => []
  | count + 1, n => hex count (n / 16) ++ [hexDigit (n % 16)]

/-- The quote that stands around a text. -/
def quoteFor (cs : List Char) : Char := if cs.contains '\'' && !cs.contains '"' then '"' else '\''

/-- A character between quotes. -/
def escape (quote c : Char) : List Char :=
  let n := c.toNat
  if c == '\\' || c == quote then ['\\', c]
  else if c == '\n' then ['\\', 'n'] else if c == '\r' then ['\\', 'r']
  else if c == '\t' then ['\\', 't']
  else if Printable.isPrintable n then [c]
  else if n < 0x100 then '\\' :: 'x' :: hex 2 n
  else if n < 0x10000 then '\\' :: 'u' :: hex 4 n
  else '\\' :: 'U' :: hex 8 n

/-- A code point between quotes. -/
def escapePoint (quote : Char) : Point → List Char
  | .char c => escape quote c
  | p => '\\' :: 'u' :: hex 4 p.toNat

/-- A text in quotes. -/
def text (s : Text) : String :=
  let q := quoteFor (s.filterMap Point.char?)
  String.ofList ([q] ++ s.flatMap (escapePoint q) ++ [q])

/-- A byte between quotes; only printable ASCII is shown as it is. -/
def escapeByte (quote : Char) (b : UInt8) : List Char :=
  if 127 ≤ b.toNat then '\\' :: 'x' :: hex 2 b.toNat else escape quote (Char.ofNat b.toNat)

/-- Bytes in quotes, marked as bytes. -/
def bytes (bs : List UInt8) : String :=
  let q := quoteFor (bs.map fun b => Char.ofNat b.toNat)
  String.ofList (['b', q] ++ bs.flatMap (escapeByte q) ++ [q])

end SnippetService.Quoted
