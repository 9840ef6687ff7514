import SnippetService.Numeric.Shortest
/-!
How the shortest digits of a double are written out. The decisions that differ between formats are
the fields of one record: where positional notation ends, how an exponent looks, and the words for
the numbers without digits.
-/
namespace SnippetService

/-- A way of writing doubles. A number `0.d₁d₂… * 10 ^ point` is positional when `point` lies
between the two bounds. -/
structure NumberLayout where
  leastPoint : Int
  greatestPoint : Int
  /-- Whether a positional number without a fraction is marked by `.0`. -/
  marksWhole : Bool
  /-- The least number of digits of an exponent. -/
  exponentWidth : Nat
  /-- Whether the sign of zero is written. -/
  signsZero : Bool
  /-- Whether only the correctly rounded decimal of each length is considered. -/
  nearestOnly : Bool
  nan : String
  infinity : String

namespace NumberLayout

/-- Digits as text. -/
def text (ds : List Nat) : String := String.ofList (ds.map fun d => Char.ofNat (48 + d))

/-- The text of an exponent: its sign always, and zeros up to the least width. -/
def exponentText (layout : NumberLayout) (e : Int) : String :=
  let ds := Shortest.digitsOf e.natAbs
  let pad := List.replicate (layout.exponentWidth - ds.length) 0
  (if e < 0 then "e-" else "e+") ++ text (pad ++ ds)

/-- The text of a positive decimal. -/
def unsigned (layout : NumberLayout) (d : DecimalDigits) : String :=
  let count : Int := d.digits.length
  if d.point < layout.leastPoint || layout.greatestPoint < d.point then
    let fraction := match d.digits.drop 1 with
      | [] => ""
      | rest => "." ++ text rest
    text (d.digits.take 1) ++ fraction ++ layout.exponentText (d.point - 1)
  else if d.point ≤ 0 then
    "0." ++ text (List.replicate (-d.point).toNat 0 ++ d.digits)
  else if count ≤ d.point then
    text (d.digits ++ List.replicate (d.point - count).toNat 0) ++
      (if layout.marksWhole then ".0" else "")
  else
    text (d.digits.take d.point.toNat) ++ "." ++ text (d.digits.drop d.point.toNat)

/-- The text of a number of a given format. -/
def write (layout : NumberLayout) (format : BinaryFormat) : BinaryValue → String
  | .nan => layout.nan
  | .infinity negative => (if negative then "-" else "") ++ layout.infinity
  | .finite negative 0 _ =>
    (if negative && layout.signsZero then "-0" else "0") ++ (if layout.marksWhole then ".0" else "")
  | .finite negative m e =>
    (if negative then "-" else "") ++
      layout.unsigned (Shortest.ofDyadic format layout.nearestOnly m e)

/-- The text of a double. -/
def writeDouble (layout : NumberLayout) (x : Float) : String :=
  layout.write .double (.ofDouble x)

end NumberLayout

/-- Numbers as results and answers carry them: exponents from `1e+16` up and from `1e-05` down, and
a whole number keeps its `.0`. -/
def NumberLayout.plain : NumberLayout where
  leastPoint := -3
  greatestPoint := 16
  marksWhole := true
  exponentWidth := 2
  signsZero := true
  nearestOnly := false
  nan := "nan"
  infinity := "inf"

/-- Numbers as script text: exponents from `1e+21` up and from `1e-7` down, zero without a sign. -/
def NumberLayout.script : NumberLayout where
  leastPoint := -5
  greatestPoint := 21
  marksWhole := false
  exponentWidth := 1
  signsZero := false
  nearestOnly := true
  nan := "NaN"
  infinity := "Infinity"

end SnippetService
