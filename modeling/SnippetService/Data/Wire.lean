import SnippetService.Data.Datum
/-!
Data as they go out. Not every value has a form as JSON, and not every form can be written.
-/
namespace SnippetService

/-- How much of a value can be written: how deep it may nest, and how many digits a whole number may have. -/
structure WriteLimits where
  depth : Nat
  digits : Nat

mutual

/-- A value as JSON can hold it, nested to a depth: bytes have to be text, text has to be characters, and objects have
no form. `odd` stands for numbers that are not finite; without it they have no form either. -/
def wire (limits : WriteLimits) (odd : Option Datum) : Nat → Datum → Option Datum
  | _, .null => some .null
  | _, .boolean b => some (.boolean b)
  | _, .integer n => if (toString n.natAbs).length ≤ limits.digits then some (.integer n) else none
  | _, .real x => if x.isFinite then some (.real x) else odd
  | _, .text s => if s.isPlain then some (.text s) else none
  | _, .bytes data => (String.fromUTF8? ⟨data.toArray⟩).map fun s => .text s
  | depth, .list items => if 0 < depth then (wireItems limits odd (depth - 1) items).map .list else none
  | depth, .record fields => if 0 < depth then (wireFields limits odd (depth - 1) fields).map .record else none
  | _, .object _ _ => none

def wireItems (limits : WriteLimits) (odd : Option Datum) (depth : Nat) : List Datum → Option (List Datum)
  | [] => some []
  | d :: ds => do
    let d ← wire limits odd depth d
    return d :: (← wireItems limits odd depth ds)

def wireFields (limits : WriteLimits) (odd : Option Datum) (depth : Nat) :
    List (Text × Datum) → Option (List (Text × Datum))
  | [] => some []
  | (name, d) :: fs =>
    if name.isPlain then do
      let d ← wire limits odd depth d
      return (name, d) :: (← wireFields limits odd depth fs)
    else none

end

/-- The value as JSON can hold it. -/
def WriteLimits.written (limits : WriteLimits) (odd : Option Datum) (d : Datum) : Option Datum :=
  wire limits odd limits.depth d

end SnippetService
