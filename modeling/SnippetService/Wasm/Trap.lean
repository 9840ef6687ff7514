/-!
Why running code is stopped.
-/
namespace SnippetService.Wasm

inductive Trap where
  | unreachableReached
  | divisionByZero
  | integerOverflow
  | invalidConversion
  | memoryOutOfBounds
  /-- A load or store reached the first byte that is not there. -/
  | memoryFault (address size : Nat)
  | tableOutOfBounds
  | nullElement
  | signatureMismatch
  | stackExhausted
  | interrupted
  deriving DecidableEq

namespace Trap

/-- What happened. -/
def name : Trap → String
  | unreachableReached => "wasm \x60unreachable\x60 instruction executed"
  | divisionByZero => "integer divide by zero"
  | integerOverflow => "integer overflow"
  | invalidConversion => "invalid conversion to integer"
  | memoryOutOfBounds | memoryFault _ _ => "out of bounds memory access"
  | tableOutOfBounds => "undefined element: out of bounds table access"
  | nullElement => "uninitialized element"
  | signatureMismatch => "indirect call type mismatch"
  | stackExhausted => "call stack exhausted"
  | interrupted => "interrupt"

/-- A number with hexadecimal digits. -/
def hexText (n : Nat) : String := "0x" ++ String.ofList (Nat.toDigits 16 n)

/-- The causes, the outermost first. -/
def causes : Trap → List String
  | memoryFault address size =>
    ["memory fault at wasm address " ++ hexText address ++ " in linear memory of size " ++
      hexText size, "wasm trap: out of bounds memory access"]
  | t => ["wasm trap: " ++ t.name]

/-- Causes, numbered if there are several. -/
def causeLines : List String → List String
  | [c] => ["    " ++ c]
  | cs => cs.mapIdx fun i c => "    " ++ toString i ++ ": " ++ c

/-- The report of a trap that stopped a function. -/
def report (t : Trap) : String :=
  "error while executing at wasm backtrace:\n    <frames>\n\nCaused by:\n" ++
    String.join ((causeLines t.causes).map (· ++ "\n"))

/-- The text of a trap that stopped no function. -/
def brief (t : Trap) : String := "wasm trap: " ++ t.name

end Trap

end SnippetService.Wasm
