import SnippetService.Text.Blank
/-!
Whole numbers as text. Digits may come from any script that has decimal digits, single underscores may
stand between digits, and white space around the number is dropped.
-/
namespace SnippetService.Digits

/-- The zeros of the scripts with decimal digits; the other nine digits follow each of them. -/
def zeros : List Nat := [
  48, 1632, 1776, 1984, 2406, 2534, 2662, 2790, 2918, 3046, 3174, 3302, 3430, 3558, 3664, 3792,
  3872, 4160, 4240, 6112, 6160, 6470, 6608, 6784, 6800, 6992, 7088, 7232, 7248, 42528, 43216,
  43264, 43472, 43504, 43600, 44016, 65296, 66720, 68912, 69734, 69872, 69942, 70096, 70384,
  70736, 70864, 71248, 71360, 71472, 71904, 72016, 72784, 73040, 73120, 92768, 92864, 93008,
  120782, 120792, 120802, 120812, 120822, 123200, 123632, 125264, 130032]

/-- The value of a decimal digit of any script. -/
def value? (c : Char) : Option Nat :=
  let n := c.toNat
  (zeros.find? fun z => z ≤ n && n < z + 10).map fun z => n - z

/-- The digits of a run in which single underscores may stand between digits; at least one. -/
def run? : List Char → Option (List Nat)
  | [] => none
  | [c] => (value? c).map ([·])
  | c :: '_' :: rest => do
    let d ← value? c
    let ds ← run? rest
    return d :: ds
  | c :: rest => do
    let d ← value? c
    let ds ← run? rest
    return d :: ds

/-- The number that digits stand for, the most significant first. -/
def toNat (ds : List Nat) : Nat := ds.foldl (fun n d => n * 10 + d) 0

/-- The greatest number of digits that is read or written. -/
def limit : Nat := 4300

/-- A sign, if one stands first, and the rest. -/
def sign : List Char → Bool × List Char
  | '-' :: rest => (true, rest)
  | '+' :: rest => (false, rest)
  | cs => (false, cs)

/-- The whole number that a text stands for. -/
def readInt? (s : String) : Option Int := do
  let (negative, cs) := sign (trimChars s.toList)
  let ds ← run? cs
  if limit < ds.length then none
  else some (if negative then -(toNat ds : Int) else toNat ds)

end SnippetService.Digits
