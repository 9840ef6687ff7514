import Mathlib.Algebra.Group.Nat.Defs
import SnippetService.Proofs.Text.Units
import SnippetService.Script.Token
/-!
String literals. The grammar says, part by part, what the text behind an opening quote stands for, up to the quote that
closes it. It is the grammar of code that is not strict, so octal escapes belong to it.
-/
namespace SnippetService.Script.StringLiteral

/-- A character as a digit, which may be a letter of either case. -/
def Digit (c : Char) (d : Nat) : Prop :=
  ('0' ≤ c ∧ c ≤ '9' ∧ c.toNat = '0'.toNat + d) ∨ ('a' ≤ c ∧ c ≤ 'f' ∧ c.toNat = 'a'.toNat - 10 + d) ∨
    ('A' ≤ c ∧ c ≤ 'F' ∧ c.toNat = 'A'.toNat - 10 + d)

/-- Digits of a base behind a value, and the value of all together. -/
inductive Numeral (base : Nat) : Nat → List Char → Nat → Prop
  | nil {value : Nat} : Numeral base value [] value
  | cons {value d n : Nat} {c : Char} {cs : List Char} (hDigit : Digit c d) (hBase : d < base)
      (hRest : Numeral base (value * base + d) cs n) : Numeral base value (c :: cs) n

/-- The letters that stand for one unit behind an escape mark. -/
def singleEscapes : List (Char × UInt16) :=
  [('\'', 39), ('"', 34), ('\\', 92), ('b', 8), ('f', 12), ('n', 10), ('r', 13), ('t', 9), ('v', 11)]

/-- The ends of a line. -/
def lineEnds : List Char := ['\n', '\r', '\u2028', '\u2029']

/-- The characters that have a meaning of their own behind an escape mark. -/
def escapeLetters : List Char := singleEscapes.map (·.1) ++ ['x', 'u'] ++ "0123456789".toList ++ lineEnds

/-- The text behind an escape mark, the units that it stands for with its mark, and the text that follows. -/
inductive Escape : List Char → List UInt16 → List Char → Prop
  | single {c : Char} {u : UInt16} {rest : List Char} (hSingle : (c, u) ∈ singleEscapes) : Escape (c :: rest) [u] rest
  | itself {c : Char} {rest : List Char} (hOther : c ∉ escapeLetters) : Escape (c :: rest) (Units.ofChar c) rest
  /-- An octal escape has as many digits as it can. -/
  | octal {c : Char} {cs rest : List Char} {n : Nat} (hNumeral : Numeral 8 0 (c :: cs) n) (hLength : cs.length ≤ 2)
      (hByte : n < 256) (hLongest : ∀ d more m, rest = d :: more → Numeral 8 n [d] m → cs.length = 2 ∨ 256 ≤ m) :
      Escape (c :: (cs ++ rest)) [UInt16.ofNat n] rest
  | decimal {c : Char} {rest : List Char} (hDigit : c ∈ ['8', '9']) : Escape (c :: rest) (Units.ofChar c) rest
  | hex {cs rest : List Char} {n : Nat} (hNumeral : Numeral 16 0 cs n) (hLength : cs.length = 2) :
      Escape ('x' :: (cs ++ rest)) [UInt16.ofNat n] rest
  | unit {cs rest : List Char} {n : Nat} (hNumeral : Numeral 16 0 cs n) (hLength : cs.length = 4) :
      Escape ('u' :: (cs ++ rest)) [UInt16.ofNat n] rest
  | point {cs rest : List Char} {n : Nat} (hNumeral : Numeral 16 0 cs n) (hSome : cs ≠ []) (hPoint : n ≤ 0x10FFFF) :
      Escape ('u' :: '{' :: (cs ++ '}' :: rest)) (Units.ofCodePoint n).toList rest
  /-- A line that goes on. A carriage return and a line feed are one end of a line. -/
  | lineEnd {c : Char} {rest : List Char} (hLine : c ∈ lineEnds) (hAlone : c = '\r' → rest.head? ≠ some '\n') :
      Escape (c :: rest) [] rest
  | lineEndPair {rest : List Char} : Escape ('\r' :: '\n' :: rest) [] rest

/-- The text behind an opening quote up to the quote that closes it, and the text behind that. -/
inductive Body (quote : Char) : List Char → List UInt16 → List Char → Prop
  | close {rest : List Char} : Body quote (quote :: rest) [] rest
  | plain {c : Char} {mid rest : List Char} {us : List UInt16} (hQuote : c ≠ quote) (hMark : c ≠ '\\')
      (hLine : c ∉ ['\n', '\r']) (hRest : Body quote mid us rest) : Body quote (c :: mid) (Units.ofChar c ++ us) rest
  | escape {text mid rest : List Char} {us vs : List UInt16} (hEscape : Escape text us mid)
      (hRest : Body quote mid vs rest) : Body quote ('\\' :: text) (us ++ vs) rest

section

variable {quote c : Char} {us vs : List UInt16} {text rest mid : List Char} {n d : Nat}

theorem digit_iff : Digit c d ↔
    (48 ≤ c.toNat ∧ c.toNat ≤ 57 ∧ c.toNat = 48 + d) ∨ (97 ≤ c.toNat ∧ c.toNat ≤ 102 ∧ c.toNat = 87 + d) ∨
      (65 ≤ c.toNat ∧ c.toNat ≤ 70 ∧ c.toNat = 55 + d) := Iff.rfl

theorem Digit.unique {e : Nat} (hDigit : Digit c d) (hOther : Digit c e) : d = e := by
  rw [digit_iff] at hDigit hOther
  omega

theorem Numeral.unique {value m : Nat} {cs : List Char} {base : Nat} (hNumeral : Numeral base value cs n)
    (hOther : Numeral base value cs m) : n = m := by
  induction hNumeral with
  | nil =>
      cases hOther
      rfl
  | cons hDigit _ _ ih =>
      cases hOther with
      | cons hSame _ hRest =>
          cases hDigit.unique hSame
          exact ih hRest

theorem Numeral.head {value : Nat} {cs : List Char} (hNumeral : Numeral 8 value (c :: cs) n) :
    48 ≤ c.toNat ∧ c.toNat ≤ 55 := by
  cases hNumeral with
  | cons hDigit hBase _ =>
      rw [digit_iff] at hDigit
      omega

theorem Numeral.range {base value : Nat} {cs : List Char} (hNumeral : Numeral base value cs n) :
    ∀ c ∈ cs, 48 ≤ c.toNat ∧ c.toNat ≤ 102 := by
  induction hNumeral with
  | nil => exact List.forall_mem_nil _
  | cons hDigit _ _ ih =>
      rw [digit_iff] at hDigit
      exact List.forall_mem_cons.mpr ⟨by omega, ih⟩

end

/-- The plain way to write a string between double quotes: printable characters for themselves, units by their letter or
by four digits. -/
inductive Written : List Char → List UInt16 → Prop
  | nil : Written [] []
  | plain {c : Char} {cs : List Char} {us : List UInt16} (hPrintable : 32 ≤ c.toNat ∧ c.toNat < 127) (hQuote : c ≠ '"')
      (hMark : c ≠ '\\') (hRest : Written cs us) : Written (c :: cs) (UInt16.ofNat c.toNat :: us)
  | single {c : Char} {u : UInt16} {cs : List Char} {us : List UInt16} (hSingle : (c, u) ∈ singleEscapes)
      (hRest : Written cs us) : Written ('\\' :: c :: cs) (u :: us)
  | unit {digits cs : List Char} {n : Nat} {us : List UInt16} (hNumeral : Numeral 16 0 digits n)
      (hLength : digits.length = 4) (hRest : Written cs us) :
      Written ('\\' :: 'u' :: (digits ++ cs)) (UInt16.ofNat n :: us)

namespace Written

variable {cs ds : List Char} {us vs : List UInt16}

theorem append (hWritten : Written cs us) (hOther : Written ds vs) : Written (cs ++ ds) (us ++ vs) := by
  induction hWritten with
  | nil => exact hOther
  | plain hPrintable hQuote hMark _ ih => exact .plain hPrintable hQuote hMark ih
  | single hSingle _ ih => exact .single hSingle ih
  | unit hNumeral hLength _ ih =>
      simpa only [List.cons_append, List.append_assoc] using Written.unit hNumeral hLength ih

end Written

end SnippetService.Script.StringLiteral

namespace SnippetService.Script.Lexeme

open StringLiteral

/-- The rules for the inside of a literal between double quotes. -/
def doubleQuoted (strict : Bool) : QuoteRules := ⟨34, strict, false⟩

section

variable {src : Units} {strict : Bool} {fuel pos : Nat} {found : Units} {us : List UInt16}

/-- From a position on, the reader takes some characters for some units. -/
def Consumes (src : Units) (strict : Bool) (pos : Nat) (cs : List Char) (vs : List UInt16) : Prop :=
  ∀ found, ∃ used ≤ cs.length, ∀ fuel, quoted src (doubleQuoted strict) (fuel + used) pos found =
    quoted src (doubleQuoted strict) fuel (pos + cs.length) (found ++ Units.ofList vs)

theorem Consumes.cons (part : List Char) {cs : List Char} {u : UInt16} {vs : List UInt16} (hSome : 1 ≤ part.length)
    (hStep : ∀ fuel found, quoted src (doubleQuoted strict) (fuel + 1) pos found =
      quoted src (doubleQuoted strict) fuel (pos + part.length) (found.push u))
    (hRest : Consumes src strict (pos + part.length) cs vs) : Consumes src strict pos (part ++ cs) (u :: vs) := by
  intro found
  obtain ⟨used, hUsed, hSame⟩ := hRest (found.push u)
  refine ⟨used + 1, by rw [List.length_append]; omega, fun fuel => ?_⟩
  rw [← Nat.add_assoc, hStep, hSame, Units.append_cons, List.length_append, Nat.add_assoc]

end

end SnippetService.Script.Lexeme
