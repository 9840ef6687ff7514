import SnippetService.Numeric.Binary
import SnippetService.Text.Digits
/-!
Decimal numbers as text: digits with a point and an exponent, or a word for infinity or for no number.
Single underscores may stand between digits.
-/
namespace SnippetService.Decimal

/-- Digits that may be none, and what follows them. -/
def digits (cs : List Char) : Option (List Nat × List Char) :=
  let isPart (c : Char) : Bool := (Digits.value? c).isSome || c == '_'
  let run := cs.takeWhile isPart
  let rest := cs.dropWhile isPart
  if run.isEmpty then some ([], rest) else (Digits.run? run).map fun ds => (ds, rest)

/-- An exponent, if one is there, as the rest of the text. -/
def exponent : List Char → Option Int
  | [] => some 0
  | e :: rest =>
    if e == 'e' || e == 'E' then
      let (negative, cs) := Digits.sign rest
      match Digits.run? cs with
      | some ds =>
        let n : Int := Digits.toNat ds
        some (if negative then -n else n)
      | none => none
    else none

/-- The words for numbers without digits. -/
def word? (negative : Bool) (s : String) : Option Float :=
  if s == "inf" || s == "infinity" then
    some (doubleOfBits (BinaryFormat.double.withSign negative BinaryFormat.double.infinityBits))
  else if s == "nan" then some (doubleOfBits BinaryFormat.double.nanBits)
  else none

/-- The number that digits with a point and an exponent stand for. -/
def number? (negative : Bool) (cs : List Char) : Option Float := do
  let (whole, rest) ← digits cs
  let (fraction, rest) ← match rest with
    | '.' :: more => digits more
    | rest => some ([], rest)
  if whole.isEmpty && fraction.isEmpty then none
  else
    let e ← exponent rest
    return doubleOfDecimal negative (Digits.toNat (whole ++ fraction)) (e - fraction.length)

/-- The number that a text stands for; white space around it is dropped. -/
def readReal? (s : String) : Option Float :=
  let (negative, cs) := Digits.sign (trimChars s.toList)
  match word? negative (String.ofList (cs.map Char.toLower)) with
  | some x => some x
  | none => number? negative cs

end SnippetService.Decimal
