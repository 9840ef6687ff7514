import SnippetService.Proofs.Numeric.Nearest
import SnippetService.Proofs.Text.Casing
import SnippetService.Proofs.Text.Digits
import SnippetService.Text.Decimal
/-!
Decimals as texts, read without any rounding. The reader of numbers reads the same decimal first and then takes the
double that is nearest to it.
-/
namespace SnippetService.Decimal

open Digits

/-- A decimal as a text gives it: `± digits * 10 ^ exponent`. -/
structure Numeral where
  negative : Bool
  digits : Nat
  exponent : Int
  deriving DecidableEq

/-- The number that a decimal stands for. -/
def Numeral.value (d : Numeral) : ℚ := negatedIf d.negative (d.digits * 10 ^ d.exponent)

/-- The digits behind a point, if one is there. -/
def fractionDigits : List Char → Option (List Nat × List Char)
  | '.' :: rest => digits rest
  | rest => some ([], rest)

theorem fractionDigits_of_ne {cs : List Char} (hPoint : ∀ more, cs ≠ '.' :: more) :
    fractionDigits cs = some ([], cs) := by
  unfold fractionDigits
  split
  · exact absurd rfl (hPoint _)
  · rfl

/-- The digits with their power of ten that a text without a sign gives. -/
def parts? (cs : List Char) : Option (Nat × Int) := do
  let (whole, rest) ← digits cs
  let (fraction, rest) ← fractionDigits rest
  if whole.isEmpty && fraction.isEmpty then none
  else
    let e ← exponent rest
    return (Digits.toNat (whole ++ fraction), e - fraction.length)

/-- The decimal that a text gives; white space around it is dropped. -/
def numeral? (s : String) : Option Numeral :=
  let (negative, cs) := sign (trimChars s.toList)
  (parts? cs).map fun (digits, exponent) => ⟨negative, digits, exponent⟩

theorem number?_eq (negative : Bool) (cs : List Char) :
    number? negative cs = (parts? cs).map fun (digits, exponent) => doubleOfDecimal negative digits exponent := by
  have hExponent (whole fraction : List Nat) (rest : List Char) :
      (if whole.isEmpty && fraction.isEmpty then none
        else (exponent rest).bind fun e =>
          some (doubleOfDecimal negative (Digits.toNat (whole ++ fraction)) (e - fraction.length))) =
      Option.map (fun (digits, exponent) => doubleOfDecimal negative digits exponent)
        (if whole.isEmpty && fraction.isEmpty then none
          else (exponent rest).bind fun e => some (Digits.toNat (whole ++ fraction), e - fraction.length)) := by
    split
    · rfl
    · cases exponent rest <;> rfl
  unfold number? parts?
  cases digits cs with
  | none => rfl
  | some front =>
      obtain ⟨whole, rest⟩ := front
      by_cases hPoint : ∃ more, rest = '.' :: more
      · obtain ⟨more, rfl⟩ := hPoint
        change ((digits more).bind _) = Option.map _ ((digits more).bind _)
        cases digits more with
        | none => rfl
        | some back => exact hExponent whole back.1 back.2
      · simp only [Option.bind_eq_bind, Option.bind_some, fractionDigits_of_ne (not_exists.mp hPoint)]
        split
        · exact absurd ⟨_, rfl⟩ hPoint
        · exact hExponent whole [] rest

/-- No decimal begins with one of the letters with which the words for numbers begin. -/
theorem parts?_letter {c : Char} (hLower : c.toLower = 'i' ∨ c.toLower = 'n') (rest : List Char) :
    parts? (c :: rest) = none := by
  have hCode := Casing.toNat_toLower c
  have hCase : c = 'i' ∨ c = 'I' ∨ c = 'n' ∨ c = 'N' := by
    simp only [← Char.toNat_inj] at hLower ⊢
    rw [hCode, Casing.small] at hLower
    simp only [Char.reduceToNat] at hLower ⊢
    split at hLower <;> omega
  rcases hCase with rfl | rfl | rfl | rfl <;> rfl

theorem word?_eq_none {cs : List Char} {p : Nat × Int} (hParts : parts? cs = some p) (negative : Bool) :
    word? negative (String.ofList (cs.map Char.toLower)) = none := by
  have hApart {word : String} (hWord : word.toList.head? = some 'i' ∨ word.toList.head? = some 'n') :
      String.ofList (cs.map Char.toLower) ≠ word := by
    rintro rfl
    rw [String.toList_ofList] at hWord
    cases cs with
    | nil => exact hWord.elim nofun nofun
    | cons c rest =>
        rw [parts?_letter (hWord.imp Option.some.inj Option.some.inj)] at hParts
        cases hParts
  rw [word?]
  simp only [beq_iff_eq, Bool.or_eq_true]
  rw [if_neg (not_or.mpr ⟨hApart (.inl rfl), hApart (.inl rfl)⟩), if_neg (hApart (.inr rfl))]

/-- A text that gives a decimal is read as the double of this decimal. -/
theorem readReal?_eq {s : String} {d : Numeral} (hNumeral : numeral? s = some d) :
    readReal? s = some (doubleOfDecimal d.negative d.digits d.exponent) := by
  unfold numeral? at hNumeral
  unfold readReal?
  generalize sign (trimChars s.toList) = signed at *
  obtain ⟨p, hParts, rfl⟩ := Option.map_eq_some_iff.mp hNumeral
  dsimp only
  rw [word?_eq_none hParts, number?_eq, hParts]
  rfl

/-- An exponent with its sign, or none. -/
inductive IsExponent : List Char → Int → Prop where
  | none : IsExponent [] 0
  | power {mark body : List Char} {factor : Int} {ds : List Nat} (signed : IsSign mark factor)
      (spelled : Spells body ds) : IsExponent ('e' :: (mark ++ body)) (factor * Digits.toNat ds)

/-- A text of digits, with at most one point among them and at most one exponent behind them. -/
inductive IsDecimal : List Char → Nat → Int → Prop where
  | whole {body tail : List Char} {ds : List Nat} {e : Int} (spelled : Spells body ds) (power : IsExponent tail e) :
      IsDecimal (body ++ tail) (Digits.toNat ds) e
  | point {front back tail : List Char} {ds es : List Nat} {e : Int} (spelled : Spells front ds)
      (fraction : Spells back es) (power : IsExponent tail e) :
      IsDecimal (front ++ '.' :: (back ++ tail)) (Digits.toNat (ds ++ es)) (e - es.length)

section

variable {cs : List Char} {ds : List Nat} {n : Nat} {e : Int}

/-- A run of digits goes on up to the end, or to what can follow it. -/
theorem digits_append (hSpells : Spells cs ds) (rest : List Char) (hRest : ∀ c ∈ rest.head?, c = '.' ∨ c = 'e') :
    digits (cs ++ rest) = some (ds, rest) := by
  have hParts : ∀ c ∈ cs, ((value? c).isSome || c == '_') = true := by
    induction hSpells with
    | last digit => simp [value?_eq_some_iff.mpr digit]
    | next digit later ih => simpa [value?_eq_some_iff.mpr digit] using ih
    | apart digit later ih => simpa [value?_eq_some_iff.mpr digit] using ih
  have hStop : rest.takeWhile (fun c => (value? c).isSome || c == '_') = [] ∧
      rest.dropWhile (fun c => (value? c).isSome || c == '_') = rest := by
    cases rest with
    | nil => exact ⟨rfl, rfl⟩
    | cons c later => rcases hRest c rfl with rfl | rfl <;> exact ⟨rfl, rfl⟩
  have hSome : cs.isEmpty = false := by
    obtain ⟨c, later, d, rfl, -⟩ := hSpells.head
    rfl
  rw [digits, List.takeWhile_append_of_pos hParts, List.dropWhile_append_of_pos hParts, hStop.1, hStop.2,
    List.append_nil, hSpells.run?_eq]
  simp [hSome]

theorem IsExponent.head (hPower : IsExponent cs e) : ∀ c ∈ cs.head?, c = 'e' := by
  cases hPower with
  | none => nofun
  | power signed spelled =>
      rintro c ⟨rfl⟩
      rfl

theorem IsExponent.exponent_eq (hPower : IsExponent cs e) : exponent cs = some e := by
  cases hPower with
  | none => rfl
  | power signed spelled =>
      obtain ⟨hFactor, hBody⟩ := signed.sign_eq spelled
      rw [← hFactor]
      simp only [exponent, hBody, spelled.run?_eq, BEq.rfl, Bool.true_or, ↓reduceIte, Option.some.injEq]
      split <;> simp

theorem IsDecimal.parts?_eq (hDecimal : IsDecimal cs n e) : parts? cs = some (n, e) := by
  have hSome {body : List Char} {ds : List Nat} (hSpells : Spells body ds) : ds.isEmpty = false := by
    cases hSpells <;> rfl
  cases hDecimal with
  | @whole body tail ds _ spelled power =>
      have hFront := digits_append spelled tail fun c hHead => .inr (power.head c hHead)
      have hNoPoint : fractionDigits tail = some ([], tail) := fractionDigits_of_ne fun more hTail =>
        absurd (power.head '.' (hTail ▸ rfl)) (by decide)
      simp only [parts?, hFront, hNoPoint, hSome spelled, power.exponent_eq, Option.bind_eq_bind, Option.bind_some,
        List.append_nil]
      simp
  | @point front back tail ds es _ spelled fraction power =>
      have hFront := digits_append spelled ('.' :: (back ++ tail)) (by simp)
      have hBack := digits_append fraction tail fun c hHead => .inr (power.head c hHead)
      simp only [parts?, hFront, fractionDigits, hBack, hSome spelled, power.exponent_eq, Option.bind_eq_bind,
        Option.bind_some, Bool.false_and]
      rfl

/-- A decimal begins with a digit. -/
theorem IsDecimal.head (hDecimal : IsDecimal cs n e) : ∃ c rest d, cs = c :: rest ∧ IsDigit c d := by
  cases hDecimal with
  | whole spelled power =>
      obtain ⟨c, later, d, rfl, hDigit⟩ := spelled.head
      exact ⟨c, _, d, rfl, hDigit⟩
  | point spelled fraction power =>
      obtain ⟨c, later, d, rfl, hDigit⟩ := spelled.head
      exact ⟨c, _, d, rfl, hDigit⟩

/-- And the last characters of it are digits. -/
theorem IsDecimal.suffix (hDecimal : IsDecimal cs n e) : ∃ front body ds, cs = front ++ body ∧ Spells body ds := by
  have hBehind {body tail : List Char} {ds : List Nat} {e : Int} (hSpells : Spells body ds)
      (hPower : IsExponent tail e) : ∃ front back es, body ++ tail = front ++ back ∧ Spells back es := by
    cases hPower with
    | none => exact ⟨[], body, ds, by simp, hSpells⟩
    | @power mark rest factor es signed spelled => exact ⟨body ++ 'e' :: mark, rest, es, by simp, spelled⟩
  cases hDecimal with
  | whole spelled power => exact hBehind spelled power
  | @point front back tail ds es _ spelled fraction power =>
      obtain ⟨middle, body, gs, hSame, hSpells⟩ := hBehind fraction power
      exact ⟨front ++ '.' :: middle, body, gs, by simp [hSame], hSpells⟩

/-- A decimal with a sign before it if it is negative is read as that decimal. -/
theorem IsDecimal.numeral?_eq {s : String} {negative : Bool} (hDecimal : IsDecimal cs n e)
    (hText : s.toList = (if negative then ['-'] else []) ++ cs) : numeral? s = some ⟨negative, n, e⟩ := by
  obtain ⟨c, rest, d, hHead, hDigit⟩ := hDecimal.head
  obtain ⟨front, body, ds, hSuffix, hSpells⟩ := hDecimal.suffix
  have hTrimmed : trimChars s.toList = (if negative then ['-'] else []) ++ cs := by
    rw [hText, trimChars_eq]
    refine trimmed_eq_self ?_ ?_
    · cases negative with
      | false =>
          rw [hHead]
          rintro c ⟨rfl⟩
          exact hDigit.plain.1
      | true =>
          rintro c ⟨rfl⟩
          decide
    · intro c hLast
      obtain ⟨first, later, d, rfl, -⟩ := hSpells.head
      rw [hSuffix, ← List.append_assoc, List.getLast?_append_of_ne_nil _ (List.cons_ne_nil _ _)] at hLast
      obtain ⟨d, hDigit⟩ := hSpells.getLast c hLast
      exact hDigit.plain.1
  have hSign : sign ((if negative then ['-'] else []) ++ cs) = (negative, cs) := by
    cases negative with
    | false =>
        rw [hHead]
        exact sign_of_isDigit hDigit rest
    | true => rfl
  simp only [numeral?, hTrimmed, hSign, hDecimal.parts?_eq, Option.map_some]

end

end SnippetService.Decimal
