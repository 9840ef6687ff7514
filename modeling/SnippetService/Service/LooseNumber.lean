import SnippetService.Service.Issue
import SnippetService.Text.Digits
/-!
Numbers that arrive as texts. Whole numbers may carry zeros in front, a fraction of zeros, and single
underscores between digits; only the digits of one script are read.
-/
namespace SnippetService.LooseNumber

def isDigit (c : Char) : Bool := 48 ≤ c.toNat && c.toNat ≤ 57

/-- The number that plain digits stand for; at least one. -/
def plainDigits (cs : List Char) : Option Nat :=
  if cs.isEmpty || !cs.all isDigit then none
  else some (Digits.toNat (cs.map fun c => c.toNat - 48))

/-- Zeros and underscores in front, behind a first zero; the last of them is kept where no digit
follows. -/
def withoutZeros (cs : List Char) : Option (List Char) :=
  match cs with
  | '0' :: rest =>
    match rest.dropWhile fun c => c == '0' || c == '_' with
    | [] => cs.getLast?.map ([·])
    | '.' :: more => some ('0' :: '.' :: more)
    | c :: more => if isDigit c then some (c :: more) else none
  | c :: _ => if isDigit c || c == '-' then some cs else none
  | [] => none

/-- A fraction that is all zeros is dropped. -/
def withoutFraction (cs : List Char) : List Char :=
  let fraction := cs.dropWhile (· != '.')
  if fraction.drop 1 |>.all (· == '0') then cs.takeWhile (· != '.') else cs

/-- Whether two underscores stand together. -/
def hasDouble : List Char → Bool
  | '_' :: '_' :: _ => true
  | _ :: rest => hasDouble rest
  | [] => false

/-- Single underscores between digits are dropped. -/
def withoutUnderscores (cs : List Char) : List Char :=
  if cs.head? == some '_' || cs.getLast? == some '_' || hasDouble cs then cs
  else cs.filter (· != '_')

/-- A minus sign and digits. -/
def signed (cs : List Char) : Option Int :=
  match cs with
  | '-' :: rest => (plainDigits rest).map fun n => -(n : Int)
  | cs => (plainDigits cs).map fun n => (n : Int)

/-- The text behind a plus sign, which no minus sign may follow. -/
def withoutPlus (cs : List Char) : Option (List Char) :=
  match cs with
  | '+' :: '-' :: _ => none
  | '+' :: rest => some rest
  | cs => some cs

/-- The whole number that a text stands for. -/
def readWhole (s : String) : Except IssueKind Int :=
  let cleaned := (withoutPlus (trimChars s.toList) >>= withoutZeros).map fun cs =>
    withoutUnderscores (withoutFraction cs)
  match cleaned with
  | none => .error .unreadableWhole
  | some cs =>
    match signed cs with
    | none => .error .unreadableWhole
    | some n => if Digits.limit < cs.length then .error .wholeTooLong else .ok n

/-- The exponent at the end of a decimal. -/
def exponent (cs : List Char) : Option Int :=
  match cs with
  | [] => some 0
  | e :: rest =>
    if e == 'e' || e == 'E' then
      let (negative, digits) := Digits.sign rest
      (plainDigits digits).map fun n => if negative then -(n : Int) else n
    else none

/-- A decimal without its sign. -/
def decimal (negative : Bool) (cs : List Char) : Option Float := do
  let whole := cs.takeWhile isDigit
  let rest := cs.dropWhile isDigit
  let (fraction, rest) := match rest with
    | '.' :: more => (more.takeWhile isDigit, more.dropWhile isDigit)
    | rest => ([], rest)
  let digits ← plainDigits (whole ++ fraction)
  let e ← exponent rest
  return doubleOfDecimal negative digits (e - fraction.length)

/-- A decimal, or a word for infinity or for no number. -/
def realChars (cs : List Char) : Option Float :=
  let (negative, cs) := Digits.sign cs
  let word := String.ofList (cs.map Char.toLower)
  if word == "inf" || word == "infinity" then
    some (doubleOfBits (BinaryFormat.double.withSign negative BinaryFormat.double.infinityBits))
  else if word == "nan" then some (doubleOfBits BinaryFormat.double.nanBits)
  else decimal negative cs

/-- The number that a text stands for. -/
def readReal (s : String) : Except IssueKind Float :=
  match realChars (trimChars s.toList) with
  | some x => .ok x
  | none =>
    match if s.toList.contains '_' then realChars (withoutUnderscores s.toList) else none with
    | some x => .ok x
    | none => .error .unreadableReal

end SnippetService.LooseNumber
