import SnippetService.Numeric.Binary
import SnippetService.Text.Letters
import SnippetService.Script.ReadFault
/-!
The words and marks of a script. Reading goes on demand, one token from a position, because a slash
begins a regular expression or divides and a brace may resume a template; the grammar decides which.
-/
namespace SnippetService.Script

inductive Token where
  | endOfInput
  | number (value : Float)
  | bigint (value : Int)
  | string (value : Units)
  /-- A text part of a template. `opens` tells whether a value follows. -/
  | template (start : Nat) (raw : Units) (opens : Bool)
  | name (text : Units) (escaped : Bool)
  | hiddenName (text : Units)
  | regexp (body flags : Units)
  | mark (text : String)

/-- A token with its place; `afterLine` tells whether a line ended since the token before. -/
structure Lexeme where
  token : Token
  start : Nat
  stop : Nat
  afterLine : Bool

namespace Lexeme

/-- Whether a unit ends a line. -/
def isLineEnd (c : Nat) : Bool := c == 10 || c == 13 || c == 0x2028 || c == 0x2029

/-- Whether a unit is blank inside a line. -/
def isBlank (c : Nat) : Bool :=
  c == 9 || c == 11 || c == 12 || c == 32 || c == 0xA0 || c == 0x1680 ||
    (0x2000 ≤ c && c ≤ 0x200A) || c == 0x202F || c == 0x205F || c == 0x3000 || c == 0xFEFF

def isDigit (c : Nat) : Bool := 48 ≤ c && c ≤ 57

/-- The value of a digit or letter as a digit of a base up to 36; other characters give 36. -/
def digitValue (c : Nat) : Nat :=
  if isDigit c then c - 48
  else if 97 ≤ c && c ≤ 122 then c - 87
  else if 65 ≤ c && c ≤ 90 then c - 55
  else 36

/-- The end of the line that holds a position. -/
def lineEnd (src : Units) : Nat → Nat → Nat
  | 0, pos => pos
  | fuel + 1, pos =>
    if src.size ≤ pos || isLineEnd (src.unit pos) then pos else lineEnd src fuel (pos + 1)

/-- The position after a block comment, and whether a line ended in it. -/
def commentEnd (src : Units) : Nat → Nat → Bool → Except ReadFault (Nat × Bool)
  | 0, _, _ => .error .unexpectedEndOfComment
  | fuel + 1, pos, lines =>
    if src.size ≤ pos then .error .unexpectedEndOfComment
    else
      let c := src.unit pos
      if c == 42 && src.unit (pos + 1) == 47 then .ok (pos + 2, lines)
      else commentEnd src fuel (pos + 1) (lines || isLineEnd c)

/-- Skip blanks, line ends and comments. -/
def skip (src : Units) : Nat → Nat → Bool → Except ReadFault (Nat × Bool)
  | 0, pos, lines => .ok (pos, lines)
  | fuel + 1, pos, lines =>
    if src.size ≤ pos then .ok (pos, lines)
    else
      let c := src.unit pos
      let d := src.unit (pos + 1)
      if isLineEnd c then skip src fuel (pos + 1) true
      else if isBlank c then skip src fuel (pos + 1) lines
      else if c == 47 && d == 47 then skip src fuel (lineEnd src (src.size - pos) pos) lines
      else if c == 47 && d == 42 then do
        let (next, lines) ← commentEnd src (src.size - pos) (pos + 2) lines
        skip src fuel next lines
      else if src.matchesAt pos "<!--" then skip src fuel (lineEnd src (src.size - pos) pos) lines
      else if src.matchesAt pos "-->" && (lines || pos == 0) then
        skip src fuel (lineEnd src (src.size - pos) pos) lines
      else .ok (pos, lines)

/-- What a backslash and the text after it stand for. -/
inductive Escape where
  | unit (value : Nat) (next : Nat)
  | malformed
  | other

/-- Up to `count` hexadecimal digits, all of which must be there. -/
def hexDigits (src : Units) : Nat → Nat → Nat → Option (Nat × Nat)
  | 0, pos, value => some (value, pos)
  | count + 1, pos, value =>
    let d := digitValue (src.unit pos)
    if d < 16 then hexDigits src count (pos + 1) (value * 16 + d) else none

/-- Hexadecimal digits up to a closing brace, standing for a code point. -/
def bracedHex (src : Units) : Nat → Nat → Nat → Option (Nat × Nat)
  | 0, _, _ => none
  | fuel + 1, pos, value =>
    let d := digitValue (src.unit pos)
    let value := value * 16 + d
    if 16 ≤ d || 0x10FFFF < value then none
    else if src.unit (pos + 1) == 125 then some (value, pos + 2)
    else bracedHex src fuel (pos + 1) value

/-- An octal escape: up to three digits, below 256. -/
def octalEscape (src : Units) (pos : Nat) : Escape :=
  let isOctal (c : Nat) : Bool := 48 ≤ c && c ≤ 55
  let a := src.unit pos - 48
  if !isOctal (src.unit (pos + 1)) then .unit a (pos + 1)
  else
    let b := a * 8 + (src.unit (pos + 1) - 48)
    if 32 ≤ b || !isOctal (src.unit (pos + 2)) then .unit b (pos + 2)
    else .unit (b * 8 + (src.unit (pos + 2) - 48)) (pos + 3)

/-- The escape whose letter stands at a position. -/
def escapeAt (src : Units) (pos : Nat) : Escape :=
  match src.unit pos with
  | 98 => .unit 8 (pos + 1)
  | 102 => .unit 12 (pos + 1)
  | 110 => .unit 10 (pos + 1)
  | 114 => .unit 13 (pos + 1)
  | 116 => .unit 9 (pos + 1)
  | 118 => .unit 11 (pos + 1)
  | c =>
    if c == 120 || c == 117 then
      let found := if src.unit (pos + 1) == 123 then bracedHex src src.size (pos + 2) 0
        else hexDigits src (if c == 120 then 2 else 4) (pos + 1) 0
      match found with
      | some (value, next) => .unit value next
      | none => .malformed
    else if 48 ≤ c && c ≤ 55 then octalEscape src pos
    else .other

/-- The rules for the inside of a quoted text. -/
structure QuoteRules where
  /-- The closing quote; a template also ends before a value. -/
  closing : Nat
  strict : Bool
  isTemplate : Bool

/-- The value of a quoted text from a position inside it, and the position after it. -/
def quoted (src : Units) (rules : QuoteRules) :
    Nat → Nat → Units → Except ReadFault (Units × Nat)
  | 0, _, _ => .error .unexpectedEndOfString
  | fuel + 1, pos, found =>
    if src.size ≤ pos then .error .unexpectedEndOfString
    else
      let c := src.unit pos
      if c == rules.closing then .ok (found, pos + 1)
      else if rules.isTemplate && c == 36 && src.unit (pos + 1) == 123 then .ok (found, pos + 2)
      else if rules.isTemplate && c == 13 then
        quoted src rules fuel (if src.unit (pos + 1) == 10 then pos + 2 else pos + 1) (found.push 10)
      else if !rules.isTemplate && (c == 10 || c == 13) then .error .unexpectedEndOfString
      else if c == 92 then
        let e := src.unit (pos + 1)
        if src.size ≤ pos + 1 then .error .unexpectedEndOfString
        else if e == 13 && src.unit (pos + 2) == 10 then quoted src rules fuel (pos + 3) found
        else if isLineEnd e then quoted src rules fuel (pos + 2) found
        else if isDigit e && (rules.strict || rules.isTemplate) then
          if e == 48 && !isDigit (src.unit (pos + 2)) then
            quoted src rules fuel (pos + 2) (found.push 0)
          else if 56 ≤ e || rules.isTemplate then .error .malformedEscape
          else .error .octalEscape
        else
          match escapeAt src (pos + 1) with
          | .unit value next => quoted src rules fuel next (found ++ Units.ofCodePoint value)
          | .malformed => .error .malformedEscape
          | .other => quoted src rules fuel (pos + 2) (found.push (UInt16.ofNat e))
      else quoted src rules fuel (pos + 1) (found.push (UInt16.ofNat c))

/-- The text of a template part as written, with each line end as one line feed. -/
def templatePart (src : Units) (start : Nat) : Nat → Nat → Units → Except ReadFault (Token × Nat)
  | 0, _, _ => .error .unexpectedEndOfString
  | fuel + 1, pos, raw =>
    if src.size ≤ pos then .error .unexpectedEndOfString
    else
      let c := src.unit pos
      if c == 0x60 then .ok (.template start raw false, pos + 1)
      else if c == 36 && src.unit (pos + 1) == 123 then .ok (.template start raw true, pos + 2)
      else
        let escaped := c == 92
        let raw := if escaped then raw.push 92 else raw
        let pos := if escaped then pos + 1 else pos
        if src.size ≤ pos then .error .unexpectedEndOfString
        else
          let c := src.unit pos
          if c == 13 then
            templatePart src start fuel (if src.unit (pos + 1) == 10 then pos + 2 else pos + 1)
              (raw.push 10)
          else templatePart src start fuel (pos + 1) (raw.push (UInt16.ofNat c))

/-- The characters of a name from a position on, with escapes resolved. -/
def nameFrom (src : Units) : Nat → Nat → Units → Bool → Units × Bool × Nat
  | 0, pos, found, escaped => (found, escaped, pos)
  | fuel + 1, pos, found, escaped =>
    if src.unit pos == 92 && src.unit (pos + 1) == 117 then
      match escapeAt src (pos + 1) with
      | .unit value next =>
        if Letters.isContinue value then
          nameFrom src fuel next (found ++ Units.ofCodePoint value) true
        else (found, escaped, pos)
      | _ => (found, escaped, pos)
    else
      let (c, width) := src.codePointAt pos
      if pos < src.size && Letters.isContinue c then
        nameFrom src fuel (pos + width) (found ++ Units.ofCodePoint c) escaped
      else (found, escaped, pos)

/-- The value of a run of digits of a base, with single underscores between digits. -/
def digitsFrom (src : Units) (radix : Nat) (separators : Bool) :
    Nat → Nat → Nat → Nat → Nat × Nat × Nat
  | 0, pos, value, count => (value, count, pos)
  | fuel + 1, pos, value, count =>
    let c := src.unit pos
    let d := digitValue c
    if d < radix then digitsFrom src radix separators fuel (pos + 1) (value * radix + d) (count + 1)
    else if separators && c == 95 && digitValue (src.unit (pos + 1)) < radix &&
        !(radix == 10 && count == 1 && value == 0) then
      digitsFrom src radix separators fuel (pos + 1) value count
    else (value, count, pos)

/-- A number is refused when a name follows it at once. -/
def finishNumber (src : Units) (token : Token) (pos : Nat) : Except ReadFault (Token × Nat) :=
  if pos < src.size && Letters.isContinue (src.codePointAt pos).1 then .error .invalidNumber
  else .ok (token, pos)

/-- The leading digits of a number that a word of 64 bits can take, and how many digits follow them. -/
def leadingWord (radix : Nat) : Nat → Nat → Nat → Nat × Nat
  | 0, n, dropped => (n, dropped)
  | fuel + 1, n, dropped =>
    if n / radix ≤ (18446744073709551615 - (radix - 1)) / radix then (n, dropped)
    else leadingWord radix fuel (n / radix) (dropped + 1)

/-- The double for the digits of a whole number. Only the digits that a word can take count; the others
scale, and both the word and the product are rounded. -/
def wholeNumber (radix n : Nat) : Float :=
  let (word, dropped) := leadingWord radix (n.log2 + 1) n 0
  if dropped == 0 then doubleOfInt word else doubleOfInt word * doubleOfInt (Nat.pow radix dropped)

/-- An integer of a base other than ten, whose digits begin at a position. -/
def radixNumber (src : Units) (radix pos : Nat) (legacy : Bool) : Except ReadFault (Token × Nat) :=
  let (value, count, next) := digitsFrom src radix (!legacy) src.size pos 0 0
  if count == 0 then .error .invalidNumber
  else if src.unit next == 110 && !legacy then finishNumber src (.bigint value) (next + 1)
  else finishNumber src (.number (wholeNumber radix value)) next

/-- A decimal number. -/
def decimalNumber (src : Units) (pos : Nat) : Except ReadFault (Token × Nat) :=
  let (whole, wholeCount, next) := digitsFrom src 10 true src.size pos 0 0
  let hasPoint := src.unit next == 46 && (0 < wholeCount || isDigit (src.unit (next + 1)))
  if hasPoint && src.unit (next + 1) == 95 then .error .invalidNumber
  else
    let (value, places, next) := if hasPoint then
        let (value, count, next) := digitsFrom src 10 true src.size (next + 1) whole 2
        (value, count - 2, next)
      else (whole, 0, next)
    let c := src.unit next
    let mark := src.unit (next + 1)
    let start := if mark == 43 || mark == 45 then next + 2 else next + 1
    if (c == 101 || c == 69) && isDigit (src.unit start) then
      let (e, _, stop) := digitsFrom src 10 true src.size start 0 2
      let e : Int := if mark == 45 then -(e : Int) else e
      finishNumber src (.number (doubleOfDecimal false value (e - places))) stop
    else if c == 110 && !hasPoint then finishNumber src (.bigint value) (next + 1)
    else if hasPoint then finishNumber src (.number (doubleOfDecimal false value (-places))) next
    else finishNumber src (.number (wholeNumber 10 value)) next

/-- The number literal at a position. Strict code has no octal numbers without a letter. -/
def number (src : Units) (strict : Bool) (pos : Nat) : Except ReadFault (Token × Nat) :=
  let d := src.unit (pos + 1)
  if src.unit pos != 48 then decimalNumber src pos
  else if d == 120 || d == 88 then radixNumber src 16 (pos + 2) false
  else if d == 111 || d == 79 then radixNumber src 8 (pos + 2) false
  else if d == 98 || d == 66 then radixNumber src 2 (pos + 2) false
  else if isDigit d then
    if strict then .error .octalNumber
    else
      let (_, _, next) := digitsFrom src 8 false src.size (pos + 1) 0 0
      if isDigit (src.unit next) then decimalNumber src pos
      else radixNumber src 8 (pos + 1) true
  else decimalNumber src pos

/-- The body of a regular expression from the unit after its slash. -/
def regexpBody (src : Units) : Nat → Nat → Bool → Except ReadFault Nat
  | 0, _, _ => .error .unexpectedEndOfRegexp
  | fuel + 1, pos, inClass =>
    if src.size ≤ pos then .error .unexpectedEndOfRegexp
    else
      let c := src.unit pos
      if isLineEnd c then .error .lineInRegexp
      else if c == 47 && !inClass then .ok pos
      else if c == 91 then regexpBody src fuel (pos + 1) true
      else if c == 93 then regexpBody src fuel (pos + 1) false
      else if c == 92 then
        if src.size ≤ pos + 1 then .error .unexpectedEndOfRegexp
        else if isLineEnd (src.unit (pos + 1)) then .error .lineInRegexp
        else regexpBody src fuel (pos + 2) inClass
      else regexpBody src fuel (pos + 1) inClass

/-- The regular expression whose slash stands at a position. -/
def regexp (src : Units) (pos : Nat) : Except ReadFault (Token × Nat) := do
  let stop ← regexpBody src src.size (pos + 1) false
  let (flags, _, next) := nameFrom src src.size (stop + 1) {} false
  return (.regexp (src.slice (pos + 1) stop) flags, next)

/-- The marks of more than one character; of two that fit, the longer comes first. -/
def marks : List String :=
  [">>>=", "...", "===", "!==", "**=", "<<=", ">>=", ">>>", "&&=", "||=", "??=", "=>", "==", "!=",
    "<=", ">=", "&&", "||", "??", "?.", "++", "--", "+=", "-=", "*=", "/=", "%=", "&=", "|=", "^=",
    "<<", ">>", "**"]

/-- The units of the marks, beside their texts. -/
def markUnits : List (String × Units) := marks.map fun m => (m, Units.ofString m)

/-- The mark at a position. A question mark and a point before a digit are two marks. -/
def mark (src : Units) (pos : Nat) : Token × Nat :=
  let fits := markUnits.find? fun (m, us) =>
    src.matchesAt pos us && !(m == "?." && isDigit (src.unit (pos + 2)))
  match fits with
  | some (m, us) => (.mark m, pos + us.size)
  | none => (.mark (String.singleton (Char.ofNat (src.unit pos))), pos + 1)

/-- The token whose first character stands at a position. -/
def tokenAt (src : Units) (strict : Bool) (pos : Nat) : Except ReadFault (Token × Nat) :=
  let (c, width) := src.codePointAt pos
  if src.size ≤ pos then .ok (.endOfInput, pos)
  else if c == 34 || c == 39 then do
    let (value, next) ← quoted src ⟨c, strict, false⟩ src.size (pos + 1) {}
    return (.string value, next)
  else if c == 0x60 then templatePart src (pos + 1) src.size (pos + 1) {}
  else if isDigit c || (c == 46 && isDigit (src.unit (pos + 1))) then number src strict pos
  else if c == 35 then
    let (first, firstWidth) := src.codePointAt (pos + 1)
    if Letters.isStart first then
      let (text, _, next) := nameFrom src src.size (pos + 1 + firstWidth)
        ("#" ++ Units.ofCodePoint first) false
      .ok (.hiddenName text, next)
    else .error .invalidHiddenName
  else if c == 92 && src.unit (pos + 1) == 117 then
    match escapeAt src (pos + 1) with
    | .unit value next =>
      if Letters.isStart value then
        let (text, _, next) := nameFrom src src.size next (Units.ofCodePoint value) true
        .ok (.name text true, next)
      else .ok (mark src pos)
    | _ => .ok (mark src pos)
  else if Letters.isStart c then
    let (text, escaped, next) := nameFrom src src.size (pos + width) (Units.ofCodePoint c) false
    .ok (.name text escaped, next)
  else if 128 ≤ c then .error .unexpectedCharacter
  else .ok (mark src pos)

/-- The first token from a position on. -/
def read (src : Units) (strict : Bool) (pos : Nat) : Except ReadFault Lexeme := do
  let (start, lines) ← skip src (src.size + 1) pos false
  let (token, stop) ← tokenAt src strict start
  return ⟨token, start, stop, lines⟩

end Lexeme

end SnippetService.Script
