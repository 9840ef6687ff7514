import SnippetService.Text.Point
import SnippetService.Text.Units
/-!
Texts as bytes. The encoding of JSON bytes is told by their first ones: a mark, or the places of zeros,
since JSON begins with ASCII. In JSON bytes a surrogate may be written like any other code point. Bytes that
should be UTF-8 can also be read with a substitute wherever they are not.
-/
namespace SnippetService.Encoding

inductive Scheme where
  | utf8
  | utf16 (bigEndian : Bool)
  | utf32 (bigEndian : Bool)
  deriving DecidableEq

/-- The marks at the start of bytes and what they tell; longer marks come first. -/
def marks : List (List UInt8 × Scheme) :=
  [([0, 0, 0xFE, 0xFF], .utf32 true), ([0xFF, 0xFE, 0, 0], .utf32 false),
    ([0xFE, 0xFF], .utf16 true), ([0xFF, 0xFE], .utf16 false), ([0xEF, 0xBB, 0xBF], .utf8)]

/-- The encoding of JSON bytes without a mark. -/
def schemeOfZeros (bs : List UInt8) : Scheme :=
  match bs with
  | a :: b :: c :: d :: _ =>
    if a = 0 then if b = 0 then .utf32 true else .utf16 true
    else if b = 0 then if c = 0 ∧ d = 0 then .utf32 false else .utf16 false
    else .utf8
  | [a, b] => if a = 0 then .utf16 true else if b = 0 then .utf16 false else .utf8
  | _ => .utf8

/-- The encoding of JSON bytes, with the bytes behind the mark. -/
def detect (bs : List UInt8) : Scheme × List UInt8 :=
  match marks.find? fun m => m.1.isPrefixOf bs with
  | some (mark, scheme) => (scheme, bs.drop mark.length)
  | none => (schemeOfZeros bs, bs)

/-- The number that two bytes stand for. -/
def word (bigEndian : Bool) (a b : Nat) : Nat := if bigEndian then a * 256 + b else b * 256 + a

/-- Bytes in twos. -/
def words (bigEndian : Bool) : List UInt8 → Option (List Nat)
  | [] => some []
  | [_] => none
  | a :: b :: rest => (words bigEndian rest).map (word bigEndian a.toNat b.toNat :: ·)

/-- Words in twos. -/
def doubleWords (bigEndian : Bool) : List Nat → Option (List Nat)
  | [] => some []
  | [_] => none
  | a :: b :: rest =>
    let n := if bigEndian then a * 0x10000 + b else b * 0x10000 + a
    (doubleWords bigEndian rest).map (n :: ·)

/-- The code point of a number from `least` on, if there is one. -/
def point? (least n : Nat) : Option Point := if least ≤ n ∧ n ≤ 0x10FFFF then some (.ofNat n) else none

/-- The bits that a byte adds behind the first one of a code point. -/
def addedBits? (b : UInt8) : Option Nat := if 0x80 ≤ b ∧ b ≤ 0xBF then some (b.toNat - 0x80) else none

/-- The code points of bytes, each of one to four bytes and in the shortest form. -/
def readPoints : List UInt8 → Option Text
  | [] => some []
  | a :: rest =>
    if a < 0x80 then (readPoints rest).map (.ofNat a.toNat :: ·)
    else if a < 0xC0 then none
    else
      match rest with
      | [] => none
      | b :: rest => do
        let second ← addedBits? b
        if a < 0xE0 then return (← point? 0x80 ((a.toNat - 0xC0) * 64 + second)) :: (← readPoints rest)
        else
          match rest with
          | [] => none
          | c :: rest =>
            let third ← addedBits? c
            if a < 0xF0 then
              return (← point? 0x800 (((a.toNat - 0xE0) * 64 + second) * 64 + third)) :: (← readPoints rest)
            else
              match rest with
              | [] => none
              | d :: rest =>
                let bits := (((a.toNat - 0xF0) * 64 + second) * 64 + third) * 64 + (← addedBits? d)
                return (← point? 0x10000 bits) :: (← readPoints rest)

/-- Whether bytes are those of characters. -/
def isUtf8 (bs : List UInt8) : Bool := (readPoints bs).any Text.isPlain

/-- The text of bytes in an encoding, if they are one. -/
def decode (scheme : Scheme) (bs : List UInt8) : Option Text :=
  match scheme with
  | .utf8 => readPoints bs
  | .utf16 big => (words big bs).map fun us => (Units.ofList (us.map UInt16.ofNat)).codePoints.map Point.ofNat
  | .utf32 big => do (← doubleWords big (← words big bs)).mapM (point? 0)

/-- The text of JSON bytes. -/
def decodeJson (bs : List UInt8) : Option Text :=
  let (scheme, rest) := detect bs
  decode scheme rest

/-- What stands for what is no character. -/
def substitute : Char := Char.ofNat 0xFFFD

/-- What is missing of a character: a number of bytes after the bits read so far, with the bounds of the
next byte. -/
structure Partial where
  missing : Nat
  bits : Nat
  least : UInt8 := 0x80
  greatest : UInt8 := 0xBF

/-- What a first byte stands for. -/
inductive Opening where
  | complete (c : Char)
  | incomplete (p : Partial)
  | invalid

/-- Bounds on the second byte keep out long forms, surrogates and what is past the last code point. -/
def Opening.ofByte (b : UInt8) : Opening :=
  let n := b.toNat
  if n < 0x80 then complete (Char.ofNat n)
  else if n < 0xC2 then invalid
  else if n < 0xE0 then incomplete ⟨1, n - 0xC0, 0x80, 0xBF⟩
  else if n < 0xF0 then
    incomplete ⟨2, n - 0xE0, if n = 0xE0 then 0xA0 else 0x80, if n = 0xED then 0x9F else 0xBF⟩
  else if n < 0xF5 then
    incomplete ⟨3, n - 0xF0, if n = 0xF0 then 0x90 else 0x80, if n = 0xF4 then 0x8F else 0xBF⟩
  else invalid

/-- A byte behind the start of a character; none if it cannot stand there. -/
def Partial.next (p : Partial) (b : UInt8) : Option Opening :=
  if b < p.least ∨ p.greatest < b then none
  else
    let bits := p.bits * 64 + (b.toNat - 0x80)
    if p.missing ≤ 1 then some (.complete (Char.ofNat bits))
    else some (.incomplete ⟨p.missing - 1, bits, 0x80, 0xBF⟩)

/-- Take in what a byte has led to. -/
def Opening.settle (o : Opening) (found : List Char) : List Char × Option Partial :=
  match o with
  | .complete c => (c :: found, none)
  | .incomplete p => (found, some p)
  | .invalid => (substitute :: found, none)

/-- The characters of bytes, the last first. The start of a character that does not go on is replaced as
a whole. -/
def readLossy (found : List Char) : Option Partial → List UInt8 → List Char
  | none, [] => found
  | some _, [] => substitute :: found
  | none, b :: rest =>
    let (found, p) := (Opening.ofByte b).settle found
    readLossy found p rest
  | some p, b :: rest =>
    match p.next b with
    | some o =>
      let (found, p) := o.settle found
      readLossy found p rest
    | none =>
      let (found, p) := (Opening.ofByte b).settle (substitute :: found)
      readLossy found p rest

/-- The characters of UTF-8 bytes, with a substitute for what is none. -/
def decodeLossy (bs : List UInt8) : List Char := (readLossy [] none bs).reverse

end SnippetService.Encoding
