/-!
What a request meets that nothing in it settles.
-/
namespace SnippetService

/-- What the world adds to a request: readings of its clock, random numbers, and how fast its machines are. -/
abbrev Chance := Nat → Nat

/-- The time in which a request is handled: how long that takes, as the clock shows it in the end, and what the world
adds besides. -/
structure Moment where
  elapsed : Nat
  chance : Chance

end SnippetService
