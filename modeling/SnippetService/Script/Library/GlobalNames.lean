import SnippetService.Script.Library.PrimitiveMethods
/-!
The functions and values that are global names.
-/
namespace SnippetService.Script.Library.GlobalNames

open Run

/-- The characters that a whole address may hold as they are, beside those of a part. -/
def isReserved (c : Nat) : Bool := (";/?:@&=+$,#".toList.map Char.toNat).contains c

def isUnescaped (c : Nat) (isPart : Bool) : Bool :=
  (c < 128 && (Char.ofNat c).isAlphanum) || ("-_.!~*'()".toList.map Char.toNat).contains c ||
    (!isPart && isReserved c)

def hexDigit (d : Nat) : Char := Char.ofNat (if d < 10 then 48 + d else 55 + d)

/-- A byte in percent notation. -/
def percent (b : Nat) : Units := String.ofList ['%', hexDigit (b / 16), hexDigit (b % 16)]

/-- The bytes of a code point. -/
def utf8 (c : Nat) : List Nat :=
  if c < 0x80 then [c]
  else if c < 0x800 then [0xC0 + c / 64, 0x80 + c % 64]
  else if c < 0x10000 then [0xE0 + c / 4096, 0x80 + c / 64 % 64, 0x80 + c % 64]
  else [0xF0 + c / 262144, 0x80 + c / 4096 % 64, 0x80 + c / 64 % 64, 0x80 + c % 64]

def encode (isPart : Bool) : Action := fun call => do
  let s ← toText (call.arg 0)
  let parts ← s.codePoints.mapM fun c => do
    if isUnescaped c isPart then return Units.ofCodePoint c
    else if Units.isLow c then fail (.malformedUri "invalid character")
    else if Units.isHigh c then fail (.malformedUri "expecting surrogate pair")
    else return (utf8 c).foldl (fun found b => found ++ percent b) {}
  return .string (parts.foldl (· ++ ·) {})

def hexValue? (c : Nat) : Option Nat :=
  if 48 ≤ c && c ≤ 57 then some (c - 48)
  else if 65 ≤ c && c ≤ 70 then some (c - 55)
  else if 97 ≤ c && c ≤ 102 then some (c - 87)
  else none

/-- The byte that stands in percent notation at a position. -/
def byteAt (s : Units) (i : Nat) : Run Nat := do
  if s.size ≤ i || s.unit i != 37 then fail (.malformedUri "expecting %")
  else match hexValue? (s.unit (i + 1)), hexValue? (s.unit (i + 2)) with
    | some a, some b =>
      if i + 2 < s.size then return a * 16 + b else fail (.malformedUri "expecting hex digit")
    | _, _ => fail (.malformedUri "expecting hex digit")

/-- The continuation bytes of a character; one that is none spoils it. -/
def continued (s : Units) : Nat → Nat → Nat → Run (Nat × Nat)
  | 0, i, c => return (c, i)
  | n + 1, i, c => do
    let b ← byteAt s i
    if b / 64 == 2 then continued s n (i + 3) (c * 64 + b % 64) else return (0, i + 3)

def decodeFrom (s : Units) (isPart : Bool) : Nat → Nat → Units → Run Units
  | 0, _, found => return found
  | fuel + 1, i, found => do
    if s.size ≤ i then return found
    else if s.unit i != 37 then decodeFrom s isPart fuel (i + 1) (found ++ s.slice i (i + 1))
    else
      let b ← byteAt s i
      if b < 128 then
        if !isPart && isReserved b then decodeFrom s isPart fuel (i + 1) (found ++ "%")
        else decodeFrom s isPart fuel (i + 3) (found ++ Units.ofCodePoint b)
      else
        let (count, least, first) : Nat × Nat × Nat :=
          if 0xC0 ≤ b && b ≤ 0xDF then (1, 0x80, b % 32)
          else if 0xE0 ≤ b && b ≤ 0xEF then (2, 0x800, b % 16)
          else if 0xF0 ≤ b && b ≤ 0xF7 then (3, 0x10000, b % 8)
          else (0, 1, 0)
        let (c, next) ← continued s count (i + 3) first
        if c < least || 0x10FFFF < c || (0xD800 ≤ c && c ≤ 0xDFFF) then
          fail (.malformedUri "malformed UTF-8")
        else decodeFrom s isPart fuel next (found ++ Units.ofCodePoint c)

def decode (isPart : Bool) : Action := fun call => do
  let s ← toText (call.arg 0)
  return .string (← decodeFrom s isPart (s.size + 1) 0 {})

/-- Run a text that is called for otherwise than by name. -/
def evalText : Action := fun c => do
  match c.arg 0 with
  | .string text => program text
  | v => return v

def evalFunction : StandardFunction where
  place := .evalFunction
  name := "eval"
  arity := 1
  run := evalText

def standardObject : StandardObject where
  place := .global
  features :=
    [.entry "globalThis" (.builtin Intrinsic.global.value),
     .entry "eval" (.builtin Intrinsic.evalFunction.value),
     .constant "NaN" (.number (0.0 / 0.0)),
     .constant "Infinity" (.number (1.0 / 0.0)),
     .constant "undefined" .undefined,
     .method "parseInt" 2 NumberMethods.parseInt,
     .method "parseFloat" 1 NumberMethods.parseFloat,
     .method "isNaN" 1 fun c => return .boolean (← toNumber (c.arg 0)).isNaN,
     .method "isFinite" 1 fun c => return .boolean (← toNumber (c.arg 0)).isFinite,
     .method "decodeURI" 1 (decode false),
     .method "decodeURIComponent" 1 (decode true),
     .method "encodeURI" 1 (encode false),
     .method "encodeURIComponent" 1 (encode true),
     .entry "Math" (.builtin Intrinsic.math.value),
     .entry "JSON" (.builtin Intrinsic.json.value),
     .entry "Reflect" (.builtin Intrinsic.reflect.value)]

end SnippetService.Script.Library.GlobalNames
