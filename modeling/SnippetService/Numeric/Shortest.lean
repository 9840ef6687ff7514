import SnippetService.Numeric.Binary
/-!
The fewest decimal digits that identify a double. A positive double owns the interval of reals that
round to it; the search takes the first decimal grid, by digit count, that has a point in the
interval, and of its points the one nearest to the number.
-/
namespace SnippetService

/-- A decimal with `digits` read as `0.d₁d₂… * 10 ^ point`, without trailing zeros. -/
structure DecimalDigits where
  digits : List Nat
  point : Int
  deriving DecidableEq

namespace Shortest

/-- The quotient `num / den` scaled by `10 ^ k`, again as a quotient. -/
def scale (num den : Nat) (k : Int) : Nat × Nat :=
  if k < 0 then (num, den * Nat.pow 10 (-k).toNat) else (num * Nat.pow 10 k.toNat, den)

/-- The least `k` with `num / den < 10 ^ k`, from an estimate that is at most a few units off. -/
def decimalPoint (num den : Nat) : Int :=
  let estimate : Int := ((num.log2 : Int) - den.log2) * 30103 / 100000
  let below (k : Int) : Bool := let (n, d) := scale num den (-k); n < d
  let rec up (fuel : Nat) (k : Int) : Int :=
    match fuel with
    | 0 => k
    | fuel + 1 => if below k then k else up fuel (k + 1)
  up 6 (estimate - 2)

/-- Whether the decimal `d * 10 ^ (-k)` lies in the rounding interval of `m * 2 ^ e`. The lower
half-gap is halved where the number begins a binade. -/
def identifies (m : Nat) (e : Int) (binade : Bool) (d : Nat) (k : Int) : Bool :=
  -- All four numbers are compared as multiples of a quarter of the unit in the last place.
  let (num, den) := scale (4 * d) 1 (-k)
  let (num, den) := if e < 0 then (num * Nat.pow 2 (-e).toNat, den) else (num, den * Nat.pow 2 e.toNat)
  let low := if binade then 4 * m - 1 else 4 * m - 2
  let high := 4 * m + 2
  if m % 2 == 0 then low * den ≤ num && num ≤ high * den else low * den < num && num < high * den

/-- The point of the grid of step `10 ^ (-k)` nearest to `num / den`, ties to even. -/
def nearest (num den : Nat) (k : Int) : Nat :=
  let (n, d) := scale num den k
  BinaryFormat.roundDiv n d

/-- The other neighbour of `num / den` on the grid of step `10 ^ (-k)`. -/
def other (num den : Nat) (k : Int) : Nat :=
  let (n, d) := scale num den k
  let near := BinaryFormat.roundDiv n d
  if near * d < n then near + 1 else near - 1

/-- The decimal digits of a natural number, most significant first. -/
def digitsOf (n : Nat) : List Nat := (Nat.toDigits 10 n).map fun c => c.toNat - 48

/-- Drop trailing zeros. -/
def trim (ds : List Nat) : List Nat := (ds.reverse.dropWhile (· == 0)).reverse

/-- A grid point as digits; a point that reached the next power of ten moves the decimal point. -/
def assemble (d : Nat) (count : Nat) (point : Int) : DecimalDigits :=
  let ds := digitsOf d
  ⟨trim ds, if count < ds.length then point + 1 else point⟩

/-- Search the grids of `count`, `count + 1`, … digits. With `nearestOnly` only the correctly rounded
point of a grid is tried; otherwise both neighbours are. -/
def search (nearestOnly : Bool) (m : Nat) (e : Int) (binade : Bool) (num den : Nat) (point : Int) :
    Nat → Nat → DecimalDigits
  | 0, count => assemble (nearest num den (count - point)) count point
  | fuel + 1, count =>
    let k : Int := count - point
    let near := nearest num den k
    if identifies m e binade near k then assemble near count point
    else if !nearestOnly && identifies m e binade (other num den k) k then
      assemble (other num den k) count point
    else search nearestOnly m e binade num den point fuel (count + 1)

/-- The shortest digits of the positive number `m * 2 ^ e` of a format. -/
def ofDyadic (f : BinaryFormat) (nearestOnly : Bool) (m : Nat) (e : Int) : DecimalDigits :=
  let (num, den) := if e < 0 then (m, Nat.pow 2 (-e).toNat) else (m * Nat.pow 2 e.toNat, 1)
  let binade := m == Nat.pow 2 f.fractionBits && f.leastExponent < e
  search nearestOnly m e binade num den (decimalPoint num den) 16 1

end Shortest

end SnippetService
