import Mathlib.Data.Nat.Digits.Defs
import SnippetService.Proofs.Text.Blank
import SnippetService.Text.Digits
/-!
Which texts are whole numbers, and which numbers they are. The grammar is stated without the reader: white space, a
sign, decimal digits of any scripts with single underscores between them, white space.
-/
namespace SnippetService.Digits

/-- A decimal digit of a script, with its value. -/
structure IsDigit (c : Char) (d : Nat) : Prop where
  small : d < 10
  code : ∃ nought ∈ zeros, c.toNat = nought + d

/-- Characters that spell digits, the most significant first. -/
inductive Spells : List Char → List Nat → Prop where
  | last {c : Char} {d : Nat} (digit : IsDigit c d) : Spells [c] [d]
  | next {c : Char} {d : Nat} {cs : List Char} {ds : List Nat} (digit : IsDigit c d) (rest : Spells cs ds) :
      Spells (c :: cs) (d :: ds)
  | apart {c : Char} {d : Nat} {cs : List Char} {ds : List Nat} (digit : IsDigit c d) (rest : Spells cs ds) :
      Spells (c :: '_' :: cs) (d :: ds)

/-- A sign, with the factor that it stands for. -/
inductive IsSign : List Char → Int → Prop where
  | none : IsSign [] 1
  | plus : IsSign ['+'] 1
  | minus : IsSign ['-'] (-1)

/-- A text that stands for a whole number. -/
inductive StandsFor (s : String) : Int → Prop where
  | intro {before mark body after : List Char} {factor : Int} {ds : List Nat}
      (text : s.toList = before ++ (mark ++ body) ++ after) (front : ∀ c ∈ before, isPadding c = true)
      (back : ∀ c ∈ after, isPadding c = true) (signed : IsSign mark factor) (spelled : Spells body ds)
      (short : ds.length ≤ 4300) : StandsFor s (factor * (Nat.ofDigits 10 ds.reverse : Nat))

/-- The digits of two scripts do not overlap. -/
theorem zeros_apart : ∀ a ∈ zeros, ∀ b ∈ zeros, a = b ∨ a + 10 ≤ b ∨ b + 10 ≤ a := by
  decide +kernel

theorem value?_eq_some_iff {c : Char} {d : Nat} : value? c = some d ↔ IsDigit c d := by
  rw [value?, Option.map_eq_some_iff]
  constructor
  · rintro ⟨nought, hFind, rfl⟩
    have hMem := List.mem_of_find?_eq_some hFind
    have hRange := List.find?_some hFind
    simp only [Bool.and_eq_true, decide_eq_true_eq] at hRange
    exact ⟨by omega, nought, hMem, by omega⟩
  · rintro ⟨hSmall, nought, hMem, hCode⟩
    have hRange : (decide (nought ≤ c.toNat) && decide (c.toNat < nought + 10)) = true := by
      simp only [Bool.and_eq_true, decide_eq_true_eq]
      omega
    cases hFind : zeros.find? fun z => z ≤ c.toNat && c.toNat < z + 10 with
    | none => exact absurd hRange (List.find?_eq_none.mp hFind nought hMem)
    | some other =>
        have hOther := List.find?_some hFind
        simp only [Bool.and_eq_true, decide_eq_true_eq] at hOther
        have hApart := zeros_apart other (List.mem_of_find?_eq_some hFind) nought hMem
        exact ⟨other, rfl, by omega⟩

/-- A digit is neither white space nor any of the other characters of a number. -/
theorem IsDigit.plain {c : Char} {d : Nat} (hDigit : IsDigit c d) :
    isPadding c = false ∧ c ≠ '_' ∧ c ≠ '+' ∧ c ≠ '-' := by
  obtain ⟨hSmall, nought, hMem, hCode⟩ := hDigit
  have hZero : ∀ nought ∈ zeros, nought = 48 ∨ 1632 ≤ nought ∧ nought + 10 ≤ 5760 ∨
      5761 ≤ nought ∧ nought + 10 ≤ 8192 ∨ 12289 ≤ nought := by
    decide
  have hRange := hZero nought hMem
  refine ⟨?_, ?_, ?_, ?_⟩
  · rw [Bool.eq_false_iff]
    simp only [isPadding, isBlank, ne_eq, Bool.and_eq_true, Bool.or_eq_true, decide_eq_true_eq, beq_iff_eq]
    omega
  · rintro rfl
    have hUnderscore : ('_').toNat = 95 := rfl
    omega
  · rintro rfl
    have hPlus : ('+').toNat = 43 := rfl
    omega
  · rintro rfl
    have hMinus : ('-').toNat = 45 := rfl
    omega

/-- A spelling begins with a digit. -/
theorem Spells.head {cs : List Char} {ds : List Nat} (hSpells : Spells cs ds) :
    ∃ c rest d, cs = c :: rest ∧ IsDigit c d := by
  cases hSpells with
  | last digit => exact ⟨_, [], _, rfl, digit⟩
  | next digit rest => exact ⟨_, _, _, rfl, digit⟩
  | apart digit rest => exact ⟨_, _, _, rfl, digit⟩

/-- And it ends with one. -/
theorem Spells.getLast {cs : List Char} {ds : List Nat} (hSpells : Spells cs ds) :
    ∀ c ∈ cs.getLast?, ∃ d, IsDigit c d := by
  induction hSpells with
  | last digit =>
      rintro c ⟨rfl⟩
      exact ⟨_, digit⟩
  | next digit rest ih =>
      obtain ⟨c, cs, d, rfl, -⟩ := rest.head
      exact ih
  | apart digit rest ih =>
      obtain ⟨c, cs, d, rfl, -⟩ := rest.head
      exact ih

theorem spells_of_run? {cs : List Char} {ds : List Nat} (hRun : run? cs = some ds) : Spells cs ds := by
  fun_induction run? cs generalizing ds with
  | case1 => cases hRun
  | case2 c =>
      obtain ⟨d, hDigit, rfl⟩ := Option.map_eq_some_iff.mp hRun
      exact .last (value?_eq_some_iff.mp hDigit)
  | case3 c rest ih =>
      simp only [Option.bind_eq_bind, Option.bind_eq_some_iff] at hRun
      obtain ⟨d, hDigit, later, hLater, hSame⟩ := hRun
      cases hSame
      exact .apart (value?_eq_some_iff.mp hDigit) (ih hLater)
  | case4 c rest _ _ ih =>
      simp only [Option.bind_eq_bind, Option.bind_eq_some_iff] at hRun
      obtain ⟨d, hDigit, later, hLater, hSame⟩ := hRun
      cases hSame
      exact .next (value?_eq_some_iff.mp hDigit) (ih hLater)

theorem Spells.run?_eq {cs : List Char} {ds : List Nat} (hSpells : Spells cs ds) : run? cs = some ds := by
  induction hSpells with
  | last digit =>
      rw [run?, value?_eq_some_iff.mpr digit]
      rfl
  | @next c d cs ds digit rest ih =>
      obtain ⟨next, later, e, rfl, hNext⟩ := rest.head
      -- The digit that follows is no underscore, so the run goes on with it.
      rw [run?, value?_eq_some_iff.mpr digit, ih]
      · rfl
      · nofun
      · intro _ hSame
        exact hNext.plain.2.1 (List.cons.inj hSame).1
  | apart digit rest ih =>
      rw [run?, value?_eq_some_iff.mpr digit, ih]
      rfl

theorem run?_eq_some_iff {cs : List Char} {ds : List Nat} : run? cs = some ds ↔ Spells cs ds :=
  ⟨spells_of_run?, Spells.run?_eq⟩

theorem toNat_eq_ofDigits (ds : List Nat) : toNat ds = Nat.ofDigits 10 ds.reverse := by
  rw [toNat, Nat.ofDigits_eq_foldr, List.foldr_reverse]
  congr 1
  funext n d
  simp only [Nat.cast_id]
  omega

theorem toNat_append (ds es : List Nat) : toNat (ds ++ es) = toNat ds * 10 ^ es.length + toNat es := by
  rw [toNat_eq_ofDigits, toNat_eq_ofDigits, toNat_eq_ofDigits, List.reverse_append, Nat.ofDigits_append,
    List.length_reverse, Nat.mul_comm, Nat.add_comm]

theorem toNat_replicate (count : Nat) : toNat (List.replicate count 0) = 0 := by
  induction count with
  | zero => rfl
  | succ count ih => simpa [toNat, List.replicate_succ] using ih

theorem toNat_padded (count : Nat) (ds : List Nat) : toNat (List.replicate count 0 ++ ds) = toNat ds := by
  rw [toNat_append, toNat_replicate, Nat.zero_mul, Nat.zero_add]

theorem isSign_sign (cs : List Char) :
    ∃ mark, cs = mark ++ (sign cs).2 ∧ IsSign mark (if (sign cs).1 then -1 else 1) := by
  unfold sign
  split
  · exact ⟨['-'], rfl, .minus⟩
  · exact ⟨['+'], rfl, .plus⟩
  · exact ⟨[], rfl, .none⟩

/-- A digit is no sign. -/
theorem sign_of_isDigit {c : Char} {d : Nat} (hDigit : IsDigit c d) (rest : List Char) :
    sign (c :: rest) = (false, c :: rest) := by
  obtain ⟨-, -, hPlus, hMinus⟩ := hDigit.plain
  unfold sign
  split
  · next hSame => exact absurd (List.cons.inj hSame).1 hMinus
  · next hSame => exact absurd (List.cons.inj hSame).1 hPlus
  · rfl

theorem IsSign.sign_eq {mark body : List Char} {factor : Int} {ds : List Nat} (hSign : IsSign mark factor)
    (hSpells : Spells body ds) :
    (if (sign (mark ++ body)).1 then -1 else 1) = factor ∧ (sign (mark ++ body)).2 = body := by
  obtain ⟨c, rest, d, rfl, hDigit⟩ := hSpells.head
  cases hSign with
  | none =>
      rw [List.nil_append, sign_of_isDigit hDigit]
      exact ⟨rfl, rfl⟩
  | plus => exact ⟨rfl, rfl⟩
  | minus => exact ⟨rfl, rfl⟩

/-- There is no white space at the ends of a sign with digits behind it. -/
theorem trimChars_number {mark body : List Char} {factor : Int} {ds : List Nat} (hSign : IsSign mark factor)
    (hSpells : Spells body ds) : trimmed isPadding (mark ++ body) = mark ++ body := by
  obtain ⟨first, rest, d, rfl, hFirst⟩ := hSpells.head
  refine trimmed_eq_self ?_ ?_
  · cases hSign with
    | none =>
        rintro c ⟨rfl⟩
        exact hFirst.plain.1
    | plus =>
        rintro c ⟨rfl⟩
        decide
    | minus =>
        rintro c ⟨rfl⟩
        decide
  · intro c hLast
    rw [List.getLast?_append_of_ne_nil _ (List.cons_ne_nil _ _)] at hLast
    obtain ⟨e, hDigit⟩ := hSpells.getLast c hLast
    exact hDigit.plain.1

/-- A text is read as a whole number exactly if it stands for it. -/
theorem readInt?_eq_some_iff {s : String} {n : Int} : readInt? s = some n ↔ StandsFor s n := by
  have hValue (negative : Bool) (ds : List Nat) :
      (if negative then -(toNat ds : Int) else toNat ds) =
        (if negative then -1 else 1) * (Nat.ofDigits 10 ds.reverse : Nat) := by
    rw [toNat_eq_ofDigits]
    cases negative <;> simp
  constructor
  · intro hRead
    simp only [readInt?, Option.bind_eq_bind, Option.bind_eq_some_iff] at hRead
    obtain ⟨ds, hRun, hRead⟩ := hRead
    split at hRead
    · cases hRead
    · next hShort =>
      obtain ⟨before, after, hText, hBefore, hAfter⟩ := exists_trimmed isPadding s.toList
      obtain ⟨mark, hMark, hSign⟩ := isSign_sign (trimChars s.toList)
      rw [← trimChars_eq, hMark] at hText
      rw [← Option.some.inj hRead, hValue]
      exact .intro hText hBefore hAfter hSign (run?_eq_some_iff.mp hRun) (Nat.le_of_not_lt hShort)
  · rintro @⟨before, mark, body, after, factor, ds, hText, hBefore, hAfter, hSign, hSpells, hShort⟩
    have hTrim : trimChars s.toList = mark ++ body := by
      rw [hText, trimChars_eq, trimmed_padded hBefore hAfter, trimChars_number hSign hSpells]
    obtain ⟨hFactor, hBody⟩ := hSign.sign_eq hSpells
    have hRun := run?_eq_some_iff.mpr hSpells
    have hFits : ¬limit < ds.length := Nat.not_lt.mpr hShort
    simp only [readInt?, hTrim, hBody, hRun, Option.bind_eq_bind, Option.bind_some]
    rw [if_neg hFits, hValue, hFactor]

theorem readInt?_eq_none_iff {s : String} : readInt? s = none ↔ ∀ v, ¬StandsFor s v := by
  simp only [Option.eq_none_iff_forall_ne_some, ne_eq, readInt?_eq_some_iff]

/-- A text stands for one number at most. -/
theorem StandsFor.unique {s : String} {n m : Int} (hFirst : StandsFor s n) (hSecond : StandsFor s m) : n = m :=
  Option.some.inj ((readInt?_eq_some_iff.mpr hFirst).symm.trans (readInt?_eq_some_iff.mpr hSecond))

end SnippetService.Digits
