import SnippetService.Text.Blank
/-!
The standard base64 text of bytes. Blanks may stand anywhere; the padding has to be there, and nothing
but padding may follow it.
-/
namespace SnippetService.Base64

abbrev Bytes := List UInt8

/-- The value of a character of the alphabet. -/
def value? (c : Char) : Option Nat :=
  let n := c.toNat
  if 65 ≤ n && n ≤ 90 then some (n - 65)
  else if 97 ≤ n && n ≤ 122 then some (n - 71)
  else if 48 ≤ n && n ≤ 57 then some (n + 4)
  else if n == 43 then some 62
  else if n == 47 then some 63
  else none

/-- The character for a value below 64. -/
def digit (v : Nat) : Char :=
  Char.ofNat (if v < 26 then 65 + v else if v < 52 then 71 + v else if v < 62 then v - 4
    else if v == 62 then 43 else 47)

/-- The whole octets of a run of six-bit values. -/
def octets : List Nat → Bytes
  | a :: b :: c :: d :: rest =>
    UInt8.ofNat (a * 4 + b / 16) :: UInt8.ofNat (b * 16 + c / 4) :: UInt8.ofNat (c * 64 + d) ::
      octets rest
  | [a, b, c] => [UInt8.ofNat (a * 4 + b / 16), UInt8.ofNat (b * 16 + c / 4)]
  | [a, b] => [UInt8.ofNat (a * 4 + b / 16)]
  | _ => []

/-- Whether a run of this many values may be followed by this much padding: a group that is not full is
filled up exactly, and behind a full group any padding is ignored. -/
def paddingFits (values padding : Nat) : Bool :=
  match values % 4 with
  | 0 => padding == 0 || 0 < values
  | 1 => false
  | 2 => padding == 2
  | _ => padding == 1

/-- The bytes of a text without blanks. -/
def decodeChars (cs : List Char) : Option Bytes :=
  let body := cs.takeWhile fun c => c != '='
  let padding := cs.dropWhile fun c => c != '='
  if padding.all (· == '=') then
    match body.mapM value? with
    | some vs => if paddingFits vs.length padding.length then some (octets vs) else none
    | none => none
  else none

/-- The bytes that a text stands for. -/
def decode (s : Text) : Option Bytes :=
  (Text.chars? (s.filter fun p => !p.isBlank)).bind decodeChars

/-- The characters of a run of bytes, with padding. -/
def encodeChars : Bytes → List Char
  | a :: b :: c :: rest =>
    let (a, b, c) := (a.toNat, b.toNat, c.toNat)
    digit (a / 4) :: digit (a % 4 * 16 + b / 16) :: digit (b % 16 * 4 + c / 64) :: digit (c % 64) ::
      encodeChars rest
  | [a, b] =>
    let (a, b) := (a.toNat, b.toNat)
    [digit (a / 4), digit (a % 4 * 16 + b / 16), digit (b % 16 * 4), '=']
  | [a] => [digit (a.toNat / 4), digit (a.toNat % 4 * 16), '=', '=']
  | [] => []

end SnippetService.Base64
