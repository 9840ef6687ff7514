import SnippetService.Numeric.Layout
/-!
Decimals with a fixed number of places or of digits. The number is rounded to the nearest such decimal;
of two that are equally near, the one of greater size is taken.
-/
namespace SnippetService.Rounded

/-- The quotient rounded to the nearest whole number, a half upwards. -/
def halfUp (num den : Nat) : Nat := (2 * num + den) / (2 * den)

/-- A dyadic number as a quotient. -/
def quotient (m : Nat) (e : Int) : Nat × Nat :=
  if e < 0 then (m, Nat.pow 2 (-e).toNat) else (m * Nat.pow 2 e.toNat, 1)

/-- Digits with zeros in front up to a least count. -/
def padded (count : Nat) (n : Nat) : List Nat :=
  let ds := Shortest.digitsOf n
  List.replicate (count - ds.length) 0 ++ ds

/-- The text of `m * 2 ^ e` with a fixed number of places. -/
def fixed (m : Nat) (e : Int) (places : Nat) : String :=
  let (num, den) := quotient m e
  let ds := padded (places + 1) (halfUp (num * Nat.pow 10 places) den)
  let whole := NumberLayout.text (ds.take (ds.length - places))
  if places == 0 then whole else whole ++ "." ++ NumberLayout.text (ds.drop (ds.length - places))

/-- The digits of a positive `m * 2 ^ e`, of a given count, and the power of ten of the first. -/
def significant (m : Nat) (e : Int) (count : Nat) : List Nat × Int :=
  let (num, den) := quotient m e
  let point := Shortest.decimalPoint num den
  let (n, d) := Shortest.scale num den (count - point)
  let ds := Shortest.digitsOf (halfUp n d)
  if count < ds.length then (ds.take count, point) else (ds, point - 1)

/-- Digits in exponential notation. -/
def exponential (ds : List Nat) (exponent : Int) : String :=
  let rest := ds.drop 1
  NumberLayout.text (ds.take 1) ++ (if rest.isEmpty then "" else "." ++ NumberLayout.text rest) ++
    NumberLayout.script.exponentText exponent

/-- Digits in positional notation. -/
def positional (ds : List Nat) (exponent : Int) : String :=
  if exponent < 0 then
    "0." ++ NumberLayout.text (List.replicate (-exponent - 1).toNat 0 ++ ds)
  else
    let whole := exponent.toNat + 1
    let rest := ds.drop whole
    NumberLayout.text (ds.take whole ++ List.replicate (whole - ds.length) 0) ++
      (if rest.isEmpty then "" else "." ++ NumberLayout.text rest)

end SnippetService.Rounded
