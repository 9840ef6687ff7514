/-!
Sets of characters given by ranges of code points.
-/
namespace SnippetService.Ranges

/-- Whether a code point lies in one of some ranges, given in ascending order. -/
def within (c : Nat) : List (Nat × Nat) → Bool
  | [] => false
  | (low, high) :: rest => if c < low then false else c ≤ high || within c rest

end SnippetService.Ranges
