import Mathlib.Algebra.Group.Nat.Defs
import Mathlib.Data.List.Forall2
import SnippetService.Proofs.Text.Point
import SnippetService.Wasm.Submission
/-!
Which texts are base64, and which bytes they stand for. The grammar is stated without the decoder, on the bits: digits
of the alphabet stand for six bits each, and the whole octets of these bits are the bytes. The standard text of bytes is
one of those that spell them, and blanks between the characters of a text make no difference to it.
-/
namespace SnippetService.Base64

/-- The alphabet. The value of a character is its place in it. -/
def alphabet : List Char := "ABCDEFGHIJKLMNOPQRSTUVWXYZabcdefghijklmnopqrstuvwxyz0123456789+/".toList

/-- The bits of a number, from the highest one of a width down. -/
def bits : Nat → Nat → List Bool
  | 0, _ => []
  | w + 1, n => n.testBit w :: bits w n

/-- The bits of bytes, one byte behind the other. -/
def octetBits (data : Bytes) : List Bool := data.flatMap fun b => bits 8 b.toNat

/-- The bits of digits, one digit behind the other. -/
def sextetBits (values : List Nat) : List Bool := values.flatMap (bits 6)

/-- A character of the alphabet, with its value. -/
def IsDigit (c : Char) (v : Nat) : Prop := alphabet[v]? = some c

/-- Characters that spell bytes: digits, and behind them nothing but padding. A last group of two or three digits is
filled up, and a single digit is no group. Bits behind the last whole octet stand for nothing. -/
inductive Spells (cs : List Char) (data : Bytes) : Prop where
  | intro {body : List Char} {values : List Nat} {padding : Nat}
      (text : cs = body ++ List.replicate padding '=') (digits : List.Forall₂ IsDigit body values)
      (group : values.length % 4 ≠ 1) (two : values.length % 4 = 2 → padding = 2)
      (three : values.length % 4 = 3 → padding = 1) (bare : values = [] → padding = 0)
      (whole : octetBits data = (sextetBits values).take (8 * (6 * values.length / 8)))

/-- Characters with blanks put in anywhere. -/
inductive Spaced : List Char → Text → Prop where
  | done : Spaced [] []
  | kept {cs : List Char} {s : Text} (c : Char) (rest : Spaced cs s) : Spaced (c :: cs) (.char c :: s)
  | blank {cs : List Char} {s : Text} {p : Point} (hBlank : p.isBlank = true) (rest : Spaced cs s) :
      Spaced cs (p :: s)

/-- The code points of a text that are not blank, in order. -/
def inked (s : Text) : Text := s.filter fun p => !p.isBlank

/-- A text that spells bytes: what is not blank in it are characters that do. -/
def Spelled (s : Text) (data : Bytes) : Prop := ∃ cs, inked s = Text.ofChars cs ∧ Spells cs data

@[simp]
theorem length_bits (w n : Nat) : (bits w n).length = w := by
  induction w with
  | zero => rfl
  | succ w ih => rw [bits, List.length_cons, ih]

theorem take_bits {k w : Nat} (hWidth : w ≤ k) (n : Nat) : (bits w n).take k = bits w n :=
  List.take_of_length_le (by simpa using hWidth)

/-- The bits of a width say what a number is modulo that power of two, and nothing else. -/
theorem bits_eq_iff {w n m : Nat} : bits w n = bits w m ↔ n % 2 ^ w = m % 2 ^ w := by
  have hBits : bits w n = bits w m ↔ ∀ i < w, n.testBit i = m.testBit i := by
    induction w with
    | zero => simp [bits]
    | succ w ih =>
        rw [bits, bits, List.cons.injEq, ih]
        constructor
        · rintro ⟨hHighest, hLower⟩ i hi
          rcases Nat.lt_succ_iff_lt_or_eq.mp hi with hi | rfl
          · exact hLower i hi
          · exact hHighest
        · exact fun hAll => ⟨hAll w (Nat.lt_succ_self w), fun i hi => hAll i (Nat.lt_succ_of_lt hi)⟩
  rw [hBits]
  constructor
  · intro hSame
    apply Nat.eq_of_testBit_eq
    intro i
    rw [Nat.testBit_mod_two_pow, Nat.testBit_mod_two_pow]
    by_cases hi : i < w
    · rw [hSame i hi]
    · simp [hi]
  · intro hMod i hi
    have hBit := congrArg (·.testBit i) hMod
    simpa [Nat.testBit_mod_two_pow, hi] using hBit

/-- Bits are those of the upper part and those of the lower part. -/
theorem bits_add (k w n : Nat) : bits (k + w) n = bits k (n / 2 ^ w) ++ bits w n := by
  induction k with
  | zero => simp [bits]
  | succ k ih =>
      rw [Nat.succ_add, bits, bits, ih, Nat.testBit_div_two_pow]
      rfl

/-- Three octets have the bits of four sextets. -/
theorem bits_regrouped {x y z p q r s : Nat} (hp : p % 64 = x / 4 % 64) (hq : q % 64 = x % 4 * 16 + y / 16 % 16)
    (hr : r % 64 = y % 16 * 4 + z / 64 % 4) (hs : s % 64 = z % 64) :
    bits 6 p ++ (bits 6 q ++ (bits 6 r ++ bits 6 s)) = bits 8 x ++ (bits 8 y ++ bits 8 z) := by
  have hFirst : bits 6 p = bits 6 (x / 4) := bits_eq_iff.mpr hp
  have hSecond : bits 6 q = bits 2 x ++ bits 4 (y / 16) := by
    rw [bits_add 2 4 q, bits_eq_iff.mpr (by omega : q / 2 ^ 4 % 2 ^ 2 = x % 2 ^ 2),
      bits_eq_iff.mpr (by omega : q % 2 ^ 4 = y / 16 % 2 ^ 4)]
  have hThird : bits 6 r = bits 4 y ++ bits 2 (z / 64) := by
    rw [bits_add 4 2 r, bits_eq_iff.mpr (by omega : r / 2 ^ 2 % 2 ^ 4 = y % 2 ^ 4),
      bits_eq_iff.mpr (by omega : r % 2 ^ 2 = z / 64 % 2 ^ 2)]
  have hFourth : bits 6 s = bits 6 z := bits_eq_iff.mpr hs
  have hX : bits 8 x = bits 6 (x / 4) ++ bits 2 x := bits_add 6 2 x
  have hY : bits 8 y = bits 4 (y / 16) ++ bits 4 y := bits_add 4 4 y
  have hZ : bits 8 z = bits 2 (z / 64) ++ bits 6 z := bits_add 2 6 z
  rw [hFirst, hSecond, hThird, hFourth, hX, hY, hZ]
  simp only [List.append_assoc]

/-- Bytes are known by their bits. -/
theorem octetBits_injective {data other : Bytes} (hBits : octetBits data = octetBits other) : data = other := by
  induction data generalizing other with
  | nil =>
      cases other with
      | nil => rfl
      | cons b rest => simp [octetBits, bits] at hBits
  | cons a rest ih =>
      cases other with
      | nil => simp [octetBits, bits] at hBits
      | cons b others =>
          rw [octetBits, octetBits, List.flatMap_cons, List.flatMap_cons] at hBits
          obtain ⟨hFirst, hRest⟩ := List.append_inj hBits (by simp)
          have hByte := bits_eq_iff.mp hFirst
          have hA := a.toNat_lt
          have hB := b.toNat_lt
          rw [Nat.mod_eq_of_lt hA, Nat.mod_eq_of_lt hB] at hByte
          rw [UInt8.toNat_inj.mp hByte, ih hRest]

theorem octetBits_cons (b : UInt8) (rest : Bytes) : octetBits (b :: rest) = bits 8 b.toNat ++ octetBits rest := rfl

theorem sextetBits_cons (v : Nat) (rest : List Nat) : sextetBits (v :: rest) = bits 6 v ++ sextetBits rest := rfl

/-- The octets that are taken from digits are the whole octets of their bits. -/
theorem octetBits_octets {values : List Nat} (hSmall : ∀ v ∈ values, v < 64) :
    octetBits (octets values) = (sextetBits values).take (8 * (6 * values.length / 8)) := by
  -- A group that is not full has the bits of one that is filled up with zeros.
  have hGroup {a b c d : Nat} (ha : a < 64) (hb : b < 64) (hc : c < 64) (hd : d < 64) :
      bits 6 a ++ (bits 6 b ++ (bits 6 c ++ bits 6 d)) = bits 8 ((a * 4 + b / 16) % 256) ++
        (bits 8 ((b * 16 + c / 4) % 256) ++ bits 8 ((c * 64 + d) % 256)) :=
    bits_regrouped (by omega) (by omega) (by omega) (by omega)
  fun_induction octets values with
  | case1 a b c d rest ih =>
      simp only [List.forall_mem_cons] at hSmall
      obtain ⟨ha, hb, hc, hd, hRest⟩ := hSmall
      have hCount : 8 * (6 * (a :: b :: c :: d :: rest).length / 8) = 24 + 8 * (6 * rest.length / 8) := by
        simp only [List.length_cons]
        omega
      have hLength : (bits 6 a ++ (bits 6 b ++ (bits 6 c ++ bits 6 d))).length = 24 := by simp
      have hSplit : sextetBits (a :: b :: c :: d :: rest) =
          (bits 6 a ++ (bits 6 b ++ (bits 6 c ++ bits 6 d))) ++ sextetBits rest := by
        simp only [sextetBits_cons, List.append_assoc]
      rw [hSplit, hCount, ← hLength, List.take_length_add_append, hGroup ha hb hc hd, ← ih hRest]
      simp only [octetBits_cons, UInt8.toNat_ofNat', List.append_assoc]
  | case2 a b c =>
      simp only [List.forall_mem_cons] at hSmall
      obtain ⟨ha, hb, hc, -⟩ := hSmall
      have hFull := congrArg (List.take 16) (hGroup ha hb hc (Nat.zero_lt_succ 63))
      simpa [octetBits, sextetBits, List.take_append, take_bits] using hFull.symm
  | case3 a b =>
      simp only [List.forall_mem_cons] at hSmall
      obtain ⟨ha, hb, -⟩ := hSmall
      have hFull := congrArg (List.take 8) (hGroup ha hb (Nat.zero_lt_succ 63) (Nat.zero_lt_succ 63))
      simpa [octetBits, sextetBits, List.take_append, take_bits] using hFull.symm
  | case4 values hFour hThree hTwo =>
      match values with
      | [] => rfl
      | [v] => simp [octetBits]
      | [a, b] => exact (hTwo a b rfl).elim
      | [a, b, c] => exact (hThree a b c rfl).elim
      | a :: b :: c :: d :: rest => exact (hFour a b c d rest rfl).elim

theorem alphabet_plain : ∀ c ∈ alphabet, c ≠ '=' ∧ isBlank c = false := by
  have hAll : alphabet.all (fun c => decide (c ≠ '=' ∧ isBlank c = false)) = true := by decide
  intro c hMem
  exact of_decide_eq_true (List.all_eq_true.mp hAll c hMem)

theorem digit_table : ∀ v < 64, value? (digit v) = some v ∧ alphabet[v]? = some (digit v) := by
  decide +kernel

/-- Only the character for a value has it. -/
theorem eq_digit_of_value? {c : Char} {v : Nat} (hValue : value? c = some v) : v < 64 ∧ c = digit v := by
  have hCode : v < 64 ∧ c.toNat = if v < 26 then 65 + v else if v < 52 then 71 + v else if v < 62 then v - 4
      else if v == 62 then 43 else 47 := by
    simp only [value?, Bool.and_eq_true, decide_eq_true_eq, beq_iff_eq] at hValue ⊢
    split_ifs at hValue <;> cases hValue <;> constructor <;> (try split_ifs) <;> omega
  refine ⟨hCode.1, ?_⟩
  rw [digit, ← hCode.2, Char.ofNat_toNat]

namespace IsDigit

variable {c : Char} {v : Nat}

theorem mem (hDigit : IsDigit c v) : c ∈ alphabet := List.mem_of_getElem? hDigit

theorem lt (hDigit : IsDigit c v) : v < 64 := (List.getElem?_eq_some_iff.mp hDigit).1

end IsDigit

theorem isDigit_digit {v : Nat} (hValue : v < 64) : IsDigit (digit v) v := (digit_table v hValue).2

/-- The value of a character is its place in the alphabet. -/
theorem value?_eq_some_iff {c : Char} {v : Nat} : value? c = some v ↔ IsDigit c v := by
  constructor
  · intro hValue
    obtain ⟨hSmall, rfl⟩ := eq_digit_of_value? hValue
    exact isDigit_digit hSmall
  · intro hDigit
    have hSame : c = digit v := Option.some.inj (hDigit.symm.trans (isDigit_digit hDigit.lt))
    rw [hSame]
    exact (digit_table v hDigit.lt).1

/-- The values of characters are had exactly if all of them are digits. -/
theorem mapM_value?_iff {body : List Char} {values : List Nat} :
    body.mapM value? = some values ↔ List.Forall₂ IsDigit body values := by
  induction body generalizing values with
  | nil => cases values <;> simp
  | cons c rest ih =>
      rw [List.mapM_cons]
      constructor
      · intro hValues
        simp only [Option.bind_eq_bind, Option.bind_eq_some_iff] at hValues
        obtain ⟨v, hValue, others, hRest, hSame⟩ := hValues
        cases hSame
        exact .cons (value?_eq_some_iff.mp hValue) (ih.mp hRest)
      · intro hDigits
        cases hDigits with
        | cons hDigit hRest =>
            rw [value?_eq_some_iff.mpr hDigit, ih.mpr hRest]
            rfl

theorem paddingFits_iff {values padding : Nat} :
    paddingFits values padding = true ↔ values % 4 ≠ 1 ∧ (values % 4 = 2 → padding = 2) ∧
      (values % 4 = 3 → padding = 1) ∧ (values = 0 → padding = 0) := by
  unfold paddingFits
  split
  · simp only [Bool.or_eq_true, beq_iff_eq, decide_eq_true_eq]
    omega
  · simp only [Bool.false_eq_true, false_iff]
    omega
  · simp only [beq_iff_eq]
    omega
  · rename_i hNone hOne hTwo
    have hLast : values % 4 = 3 := by
      have hNone : values % 4 ≠ 0 := hNone
      have hOne : values % 4 ≠ 1 := hOne
      have hTwo : values % 4 ≠ 2 := hTwo
      omega
    simp only [beq_iff_eq]
    omega

theorem small_of_digits {body : List Char} {values : List Nat} (hDigits : List.Forall₂ IsDigit body values) :
    ∀ v ∈ values, v < 64 := by
  induction hDigits with
  | nil => nofun
  | cons hDigit _ ih => exact List.forall_mem_cons.mpr ⟨hDigit.lt, ih⟩

theorem plain_of_digits {body : List Char} {values : List Nat} (hDigits : List.Forall₂ IsDigit body values) :
    ∀ c ∈ body, c ≠ '=' ∧ isBlank c = false := by
  induction hDigits with
  | nil => nofun
  | cons hDigit _ ih => exact List.forall_mem_cons.mpr ⟨alphabet_plain _ hDigit.mem, ih⟩

/-- Characters without blanks are decoded to bytes exactly if they spell these bytes. -/
theorem decodeChars_eq_some_iff {cs : List Char} {data : Bytes} : decodeChars cs = some data ↔ Spells cs data := by
  constructor
  · intro hDecode
    have hText := (List.takeWhile_append_dropWhile (p := fun c => c != '=') (l := cs)).symm
    unfold decodeChars at hDecode
    dsimp only at hDecode
    generalize cs.takeWhile (fun c => c != '=') = body at hText hDecode
    generalize cs.dropWhile (fun c => c != '=') = padding at hText hDecode
    split at hDecode
    · rename_i hPadding
      have hEnd : padding = List.replicate padding.length '=' := by
        rw [List.eq_replicate_iff]
        exact ⟨rfl, by simpa using hPadding⟩
      cases hValues : body.mapM value? with
      | none => simp [hValues] at hDecode
      | some values =>
          simp only [hValues, Option.ite_none_right_eq_some, Option.some.injEq] at hDecode
          obtain ⟨hFits, rfl⟩ := hDecode
          have hDigits := mapM_value?_iff.mp hValues
          obtain ⟨hGroup, hTwo, hThree, hBare⟩ := paddingFits_iff.mp hFits
          rw [hEnd] at hText
          exact ⟨hText, hDigits, hGroup, hTwo, hThree, fun hNone => hBare (by simp [hNone]),
            octetBits_octets (small_of_digits hDigits)⟩
    · cases hDecode
  · rintro ⟨hText, hDigits, hGroup, hTwo, hThree, hBare, hWhole⟩
    rename_i body values padding
    have hBody : ∀ c ∈ body, (c != '=') = true := fun c hMem => bne_iff_ne.mpr (plain_of_digits hDigits c hMem).1
    have hFits : paddingFits values.length padding = true :=
      paddingFits_iff.mpr ⟨hGroup, hTwo, hThree, fun hNone => hBare (List.length_eq_zero_iff.mp hNone)⟩
    have hData : octets values = data := by
      apply octetBits_injective
      rw [hWhole, octetBits_octets (small_of_digits hDigits)]
    rw [hText, decodeChars, List.takeWhile_append_of_pos hBody, List.dropWhile_append_of_pos hBody]
    simp [mapM_value?_iff.mpr hDigits, hFits, hData]

/-- A full group in front of a text stands for three bytes in front of the others. -/
theorem Spells.cons {cs : List Char} {data : Bytes} (hSpells : Spells cs data) {a b c : UInt8} {p q r s : Nat}
    (hp : p = a.toNat / 4) (hq : q = a.toNat % 4 * 16 + b.toNat / 16) (hr : r = b.toNat % 16 * 4 + c.toNat / 64)
    (hs : s = c.toNat % 64) : Spells (digit p :: digit q :: digit r :: digit s :: cs) (a :: b :: c :: data) := by
  obtain ⟨rfl, hDigits, hGroup, hTwo, hThree, hBare, hWhole⟩ := hSpells
  rename_i body values padding
  have ha := a.toNat_lt
  have hb := b.toNat_lt
  have hc := c.toNat_lt
  have hText : digit p :: digit q :: digit r :: digit s :: (body ++ List.replicate padding '=') =
      (digit p :: digit q :: digit r :: digit s :: body) ++ List.replicate padding '=' := rfl
  have hLonger : List.Forall₂ IsDigit (digit p :: digit q :: digit r :: digit s :: body) (p :: q :: r :: s :: values) :=
    .cons (isDigit_digit (by omega)) (.cons (isDigit_digit (by omega)) (.cons (isDigit_digit (by omega))
      (.cons (isDigit_digit (by omega)) hDigits)))
  have hMod : (p :: q :: r :: s :: values).length % 4 = values.length % 4 := by
    simp only [List.length_cons]
    omega
  refine .intro hText hLonger (by rwa [hMod]) (by rwa [hMod]) (by rwa [hMod]) nofun ?_
  have hBits : bits 6 p ++ (bits 6 q ++ (bits 6 r ++ bits 6 s)) =
      bits 8 a.toNat ++ (bits 8 b.toNat ++ bits 8 c.toNat) :=
    bits_regrouped (by omega) (by omega) (by omega) (by omega)
  have hLength : (bits 6 p ++ (bits 6 q ++ (bits 6 r ++ bits 6 s))).length = 24 := by simp
  have hCount : 8 * (6 * (p :: q :: r :: s :: values).length / 8) = 24 + 8 * (6 * values.length / 8) := by
    simp only [List.length_cons]
    omega
  have hSplit : sextetBits (p :: q :: r :: s :: values) =
      (bits 6 p ++ (bits 6 q ++ (bits 6 r ++ bits 6 s))) ++ sextetBits values := by
    simp only [sextetBits_cons, List.append_assoc]
  rw [hSplit, hCount, ← hLength, List.take_length_add_append, hBits, ← hWhole]
  simp only [octetBits_cons, List.append_assoc]

/-- Digits for the bits of bytes, with zeros behind them up to a whole digit, and with padding up to a whole group. -/
theorem spells_digits {values : List Nat} (hSmall : ∀ v ∈ values, v < 64) (padding : Nat) {data : Bytes}
    (hOpen : 1 < values.length % 4) (hPadding : values.length % 4 + padding = 4)
    (hWhole : octetBits data = (sextetBits values).take (8 * (6 * values.length / 8))) :
    Spells (values.map digit ++ List.replicate padding '=') data := by
  have hDigits : List.Forall₂ IsDigit (values.map digit) values := by
    rw [List.forall₂_map_left_iff, List.forall₂_same]
    exact fun v hMem => isDigit_digit (hSmall v hMem)
  refine .intro rfl hDigits (by omega) (by omega) (by omega) ?_ hWhole
  rintro rfl
  exact absurd hOpen (by decide)

/-- The standard text of bytes spells them. -/
theorem spells_encodeChars (data : Bytes) : Spells (encodeChars data) data := by
  fun_induction encodeChars data with
  | case1 a b c rest x y z hBytes ih =>
      cases hBytes
      exact ih.cons rfl rfl rfl rfl
  | case2 a b x y hBytes =>
      cases hBytes
      have ha := a.toNat_lt
      have hb := b.toNat_lt
      have hBits : bits 6 (a.toNat / 4) ++ (bits 6 (a.toNat % 4 * 16 + b.toNat / 16) ++
          (bits 6 (b.toNat % 16 * 4) ++ bits 6 0)) = bits 8 a.toNat ++ (bits 8 b.toNat ++ bits 8 0) :=
        bits_regrouped (by omega) (by omega) (by omega) rfl
      have hTaken := congrArg (List.take 16) hBits
      have hSmall : ∀ v ∈ [a.toNat / 4, a.toNat % 4 * 16 + b.toNat / 16, b.toNat % 16 * 4], v < 64 := by
        simp only [List.forall_mem_cons]
        exact ⟨by omega, by omega, by omega, nofun⟩
      refine spells_digits hSmall 1 (by simp) rfl ?_
      simpa [octetBits, sextetBits, List.take_append, take_bits] using hTaken.symm
  | case3 a =>
      have ha := a.toNat_lt
      have hBits : bits 6 (a.toNat / 4) ++ (bits 6 (a.toNat % 4 * 16) ++ (bits 6 0 ++ bits 6 0)) =
          bits 8 a.toNat ++ (bits 8 0 ++ bits 8 0) :=
        bits_regrouped (by omega) (by omega) rfl rfl
      have hTaken := congrArg (List.take 8) hBits
      have hSmall : ∀ v ∈ [a.toNat / 4, a.toNat % 4 * 16], v < 64 := by
        simp only [List.forall_mem_cons]
        exact ⟨by omega, by omega, nofun⟩
      refine spells_digits hSmall 2 (by simp) rfl ?_
      simpa [octetBits, sextetBits, List.take_append, take_bits] using hTaken.symm
  | case4 =>
      have hText : ([] : List Char) = [] ++ List.replicate 0 '=' := rfl
      exact .intro hText .nil nofun nofun nofun (fun _ => rfl) rfl

/-- A text that spells bytes has no blanks. -/
theorem Spells.inked {cs : List Char} {data : Bytes} (hSpells : Spells cs data) :
    inked (Text.ofChars cs) = Text.ofChars cs := by
  obtain ⟨rfl, hDigits, -⟩ := hSpells
  rw [Base64.inked, List.filter_eq_self]
  intro p hMem
  obtain ⟨c, hText, rfl⟩ := List.mem_map.mp hMem
  have hInk : isBlank c = false := by
    rcases List.mem_append.mp hText with hBody | hPadding
    · exact (plain_of_digits hDigits c hBody).2
    · rw [(List.mem_replicate.mp hPadding).2]
      rfl
  simp [Point.isBlank, Point.char?, hInk]

theorem Spaced.inked {cs : List Char} {s : Text} (hSpaced : Spaced cs s) : inked s = inked (Text.ofChars cs) := by
  induction hSpaced with
  | done => rfl
  | kept c _ ih =>
      rw [Base64.inked, Base64.inked] at ih ⊢
      rw [Text.ofChars, List.map_cons, List.filter_cons, List.filter_cons, ih]
      rfl
  | blank hBlank _ ih =>
      rw [← ih, Base64.inked, List.filter_cons, hBlank]
      rfl

end SnippetService.Base64

namespace SnippetService.Wasm

open Base64

theorem decodeSubmission_eq_ok_iff {s : Text} {data : Bytes} : decodeSubmission s = .ok data ↔ Spelled s data := by
  have hDecode : decode s = some data ↔ Spelled s data := by
    rw [decode, ← inked, Option.bind_eq_some_iff]
    simp only [Text.chars?_eq_some_iff, decodeChars_eq_some_iff, Spelled]
  rw [← hDecode, decodeSubmission]
  cases decode s <;> simp

/-- The standard text of bytes is decoded to them, wherever blanks are put into it. Only what is not blank makes a
difference to a submission. It is decoded exactly if this spells bytes, and then to these bytes; every other submission
is refused with the same message and hint. -/
theorem decodeSubmission_spelled :
    (∀ data s, Spaced (encodeChars data) s → decodeSubmission s = .ok data) ∧
    (∀ s t, inked s = inked t → decodeSubmission s = decodeSubmission t) ∧
    (∀ s data, decodeSubmission s = .ok data ↔ Spelled s data) ∧
    ∀ s, (∃ data, decodeSubmission s = .ok data) ∨
      decodeSubmission s = .error (.classified .load base64Error (some base64Hint)) := by
  refine ⟨?standard, ?blanks, fun s data => decodeSubmission_eq_ok_iff, ?total⟩
  case standard =>
    intro data s hSpaced
    have hStandard := spells_encodeChars data
    exact decodeSubmission_eq_ok_iff.mpr ⟨_, by rw [hSpaced.inked, hStandard.inked], hStandard⟩
  case blanks =>
    intro s t hSame
    rw [decodeSubmission, decodeSubmission, decode, decode, ← inked, ← inked, hSame]
  case total =>
    intro s
    unfold decodeSubmission
    cases decode s with
    | some data => exact .inl ⟨data, rfl⟩
    | none => exact .inr rfl

/-- Four bytes in a text that is broken into lines, the second line with a wide blank in it. -/
theorem decodeSubmission_spelled_lines :
    Spaced (encodeChars [0, 97, 115, 109]) "AGFz\nbQ\u3000==\n" ∧
      decodeSubmission "AGFz\nbQ\u3000==\n" = .ok [0, 97, 115, 109] ∧
      decodeSubmission " AGFzbQ==" = decodeSubmission "AGFz bQ==" := by
  have hSpaced : Spaced (encodeChars [0, 97, 115, 109]) "AGFz\nbQ\u3000==\n" :=
    .kept 'A' (.kept 'G' (.kept 'F' (.kept 'z' (.blank rfl (.kept 'b' (.kept 'Q' (.blank rfl (.kept '=' (.kept '='
      (.blank rfl .done))))))))))
  exact ⟨hSpaced, decodeSubmission_spelled.1 _ _ hSpaced, decodeSubmission_spelled.2.1 _ _ (by decide)⟩

end SnippetService.Wasm
