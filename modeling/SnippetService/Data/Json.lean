import SnippetService.Data.Datum
import SnippetService.Text.Digits
/-!
Reading JSON text. The three words for numbers without digits are accepted, and of fields of one name
the last counts. An escape may stand for a surrogate without its partner, which stays one. A fault tells its
cause and the position at which it was found.
-/
namespace SnippetService.Json

inductive Problem where
  | expectingValue
  | expectingName
  | expectingColon
  | expectingComma
  | unterminated
  | controlCharacter
  | escape
  | unicodeEscape
  | extraData
  | byteOrderMark
  /-- A whole number with more digits than are read. -/
  | tooManyDigits (count : Nat)
  | tooDeep
  deriving DecidableEq

namespace Problem

def message : Problem → String
  | expectingValue => "Expecting value"
  | expectingName => "Expecting property name enclosed in double quotes"
  | expectingColon => "Expecting ':' delimiter"
  | expectingComma => "Expecting ',' delimiter"
  | unterminated => "Unterminated string starting at"
  | controlCharacter => "Invalid control character at"
  | escape => "Invalid \\escape"
  | unicodeEscape => "Invalid \\uXXXX escape"
  | extraData => "Extra data"
  | byteOrderMark => "Unexpected UTF-8 BOM (decode using utf-8-sig)"
  | tooManyDigits count =>
    "Exceeds the limit (4300 digits) for integer string conversion: value has " ++ toString count ++
      " digits; use sys.set_int_max_str_digits() to increase the limit"
  | tooDeep => "maximum recursion depth exceeded while decoding a JSON array from a unicode string"

/-- Whether the text itself is malformed, and not only too great. -/
def isSyntax : Problem → Bool
  | tooManyDigits _ | tooDeep => false
  | _ => true

end Problem

structure Fault where
  problem : Problem
  position : Nat
  deriving DecidableEq

namespace Fault

/-- The message of a fault with the place in the text. -/
def message (f : Fault) (s : Text) : String :=
  if f.problem.isSyntax then
    let before := s.take f.position
    let line := before.count (.char '\n') + 1
    let column := (before.reverse.takeWhile (· != .char '\n')).length + 1
    f.problem.message ++ ": line " ++ toString line ++ " column " ++ toString column ++
      " (char " ++ toString f.position ++ ")"
  else f.problem.message

end Fault

/-- A reading stops with a problem and the number of code points left where it was found. -/
abbrev Step (α : Type) := Except (Problem × Nat) (α × Text)

def isSpace (p : Point) : Bool :=
  p == .char ' ' || p == .char '\t' || p == .char '\n' || p == .char '\r'

def skip (s : Text) : Text := s.dropWhile isSpace

def stop {α : Type} (p : Problem) (s : Text) : Except (Problem × Nat) α := .error (p, s.length)

def hexValue? (c : Char) : Option Nat :=
  let n := c.toNat
  if 48 ≤ n && n ≤ 57 then some (n - 48)
  else if 65 ≤ n && n ≤ 70 then some (n - 55)
  else if 97 ≤ n && n ≤ 102 then some (n - 87)
  else none

/-- Four hexadecimal digits, behind which the text must go on. -/
def fourHex : Text → Option (Nat × Text)
  | .char a :: .char b :: .char c :: .char d :: e :: rest => do
    let a ← hexValue? a
    let b ← hexValue? b
    let c ← hexValue? c
    let d ← hexValue? d
    return (a * 4096 + b * 256 + c * 16 + d, e :: rest)
  | _ => none

/-- The character of a simple escape. -/
def simpleEscape? (c : Char) : Option Char :=
  match c with
  | '"' => some '"'
  | '\\' => some '\\'
  | '/' => some '/'
  | 'b' => some '\x08'
  | 'f' => some '\x0c'
  | 'n' => some '\n'
  | 'r' => some '\r'
  | 't' => some '\t'
  | _ => none

/-- The code point that a unit and the text behind it stand for: a high and a low surrogate make one
character, and a surrogate without its partner stands for itself. The text begins at the mark of the escape. -/
def unicodePoint (unit : Nat) (rest : Text) : Except (Problem × Nat) (Point × Text) :=
  if 0xD800 ≤ unit && unit ≤ 0xDBFF then
    match rest with
    | .char '\\' :: .char 'u' :: more =>
      if more.length < 5 then .ok (.ofNat unit, rest)
      else match fourHex more with
        | some (low, after) =>
          if 0xDC00 ≤ low && low ≤ 0xDFFF then
            .ok (.ofNat (0x10000 + (unit - 0xD800) * 0x400 + (low - 0xDC00)), after)
          else .ok (.ofNat unit, rest)
        | none => .error (.unicodeEscape, more.length + 1)
    | _ => .ok (.ofNat unit, rest)
  else .ok (.ofNat unit, rest)

/-- The code points up to the closing quote. `opening` is the number of code points left at the opening
quote. -/
def quoted (opening : Nat) : Nat → Text → Text → Step Text
  | 0, _, _ => .error (.unterminated, opening)
  | fuel + 1, found, s =>
    match s with
    | [] => .error (.unterminated, opening)
    | .char '"' :: rest => .ok (found.reverse, rest)
    | .char '\\' :: rest =>
      match rest with
      | [] => .error (.unterminated, opening)
      | .char 'u' :: more =>
        match fourHex more with
        | none => stop .unicodeEscape rest
        | some (unit, after) =>
          match unicodePoint unit after with
          | .error e => .error e
          | .ok (p, after) => quoted opening fuel (p :: found) after
      | p :: more =>
        match p.char?.bind simpleEscape? with
        | some c => quoted opening fuel (.char c :: found) more
        | none => stop .escape s
    | p :: rest =>
      if p.toNat < 32 then stop .controlCharacter s
      else quoted opening fuel (p :: found) rest

def isDigit (p : Point) : Bool := 48 ≤ p.toNat && p.toNat ≤ 57

def digitsValue (ds : Text) : Nat := Digits.toNat (ds.map fun p => p.toNat - 48)

/-- The parts of a number: its sign, the whole digits, those of the fraction, and the exponent. -/
structure NumberParts where
  negative : Bool
  whole : Text
  fraction : Option Text
  exponent : Option Int

/-- The sign of an exponent, if one stands first, and the rest. -/
def exponentSign : Text → Bool × Text
  | .char '-' :: rest => (true, rest)
  | .char '+' :: rest => (false, rest)
  | s => (false, s)

/-- The parts of the number at the start of a text, with the text behind it. -/
def numberParts (s : Text) : Option (NumberParts × Text) :=
  let (negative, s) := match s with
    | .char '-' :: rest => (true, rest)
    | _ => (false, s)
  let (whole, s) : Text × Text := match s with
    | .char '0' :: rest => ([.char '0'], rest)
    | _ => s.span isDigit
  if whole.isEmpty then none
  else
    let (fraction, s) : Option Text × Text := match s with
      | .char '.' :: rest =>
        let (ds, after) := rest.span isDigit
        if ds.isEmpty then (none, s) else (some ds, after)
      | _ => (none, s)
    let (exponent, s) : Option Int × Text := match s with
      | .char e :: rest =>
        if e == 'e' || e == 'E' then
          let (negative, digits) := exponentSign rest
          let (ds, after) := digits.span isDigit
          if ds.isEmpty then (none, s)
          else
            let n : Int := digitsValue ds
            (some (if negative then -n else n), after)
        else (none, s)
      | _ => (none, s)
    some (⟨negative, whole, fraction, exponent⟩, s)

/-- The value of a number: whole unless it has a fraction or an exponent. -/
def numberValue (p : NumberParts) : Except Problem Datum :=
  match p.fraction, p.exponent with
  | none, none =>
    if Digits.limit < p.whole.length then .error (.tooManyDigits p.whole.length)
    else
      let n : Int := digitsValue p.whole
      .ok (.integer (if p.negative then -n else n))
  | _, _ =>
    let fraction := p.fraction.getD []
    let digits := digitsValue (p.whole ++ fraction)
    .ok (.real (doubleOfDecimal p.negative digits (p.exponent.getD 0 - fraction.length)))

/-- The words that stand for values. -/
def words : List (Text × Datum) :=
  [("null", .null), ("true", .boolean true), ("false", .boolean false), ("NaN", .real (0.0 / 0.0)),
    ("Infinity", .real (1.0 / 0.0)), ("-Infinity", .real (-1.0 / 0.0))]

/-- A word at the start of a text. -/
def word? (s : Text) : Option (Datum × Text) :=
  (words.find? fun w => w.1.isPrefixOf s).map fun w => (w.2, s.drop w.1.length)

/-- The items of an array up to its end. -/
def items (value : Text → Step Datum) : Nat → List Datum → Text → Step Datum
  | 0, _, s => stop .tooDeep s
  | fuel + 1, found, s =>
    match value s with
    | .error e => .error e
    | .ok (d, rest) =>
      match skip rest with
      | .char ']' :: after => .ok (.list (d :: found).reverse, after)
      | .char ',' :: after => items value fuel (d :: found) (skip after)
      | other => stop .expectingComma other

/-- The members of an object up to its end. -/
def members (value : Text → Step Datum) : Nat → List (Text × Datum) → Text → Step Datum
  | 0, _, s => stop .tooDeep s
  | fuel + 1, found, s =>
    match s with
    | .char '"' :: rest =>
      match quoted s.length (rest.length + 1) [] rest with
      | .error e => .error e
      | .ok (name, rest) =>
        match skip rest with
        | .char ':' :: rest =>
          match value (skip rest) with
          | .error e => .error e
          | .ok (d, rest) =>
            let found := Datum.setField found name d
            match skip rest with
            | .char '\x7d' :: after => .ok (.record found, after)
            | .char ',' :: after => members value fuel found (skip after)
            | other => stop .expectingComma other
        | other => stop .expectingColon other
    | other => stop .expectingName other

/-- A value at the start of a text. -/
def value : Nat → Text → Step Datum
  | 0, s => stop .tooDeep s
  | fuel + 1, s =>
    match s with
    | .char '"' :: rest =>
      match quoted s.length (rest.length + 1) [] rest with
      | .ok (t, rest) => .ok (.text t, rest)
      | .error e => .error e
    | .char '[' :: rest =>
      match skip rest with
      | .char ']' :: after => .ok (.list [], after)
      | inner => items (value fuel) (inner.length + 1) [] inner
    | .char '\x7b' :: rest =>
      match skip rest with
      | .char '\x7d' :: after => .ok (.record [], after)
      | inner => members (value fuel) (inner.length + 1) [] inner
    | _ =>
      match word? s with
      | some r => .ok r
      | none =>
        match numberParts s with
        | none => stop .expectingValue s
        | some (p, rest) =>
          match numberValue p with
          | .ok d => .ok (d, rest)
          | .error problem => stop problem s

/-- How deep values may nest. -/
def depthLimit : Nat := 990

/-- The value that a text stands for. -/
def readText (s : Text) : Except Fault Datum :=
  let fault (p : Problem) (left : Nat) : Except Fault Datum := .error ⟨p, s.length - left⟩
  match value depthLimit (skip s) with
  | .error (p, left) => fault p left
  | .ok (d, rest) =>
    match skip rest with
    | [] => .ok d
    | more => fault .extraData more.length

/-- The value that a text stands for. It may have no byte order mark. -/
def read (s : Text) : Except Fault Datum :=
  match s with
  | .char '\ufeff' :: _ => .error ⟨.byteOrderMark, 0⟩
  | _ => readText s

end SnippetService.Json
