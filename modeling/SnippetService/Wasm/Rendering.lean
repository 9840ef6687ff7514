import SnippetService.Execution.Failure
import SnippetService.Data.Datum
import SnippetService.Text.Digits
/-!
Numbers as output lines show them: a float without a fraction looks like a whole number.
-/
namespace SnippetService.Wasm

/-- The text of a whole number, which may not be too long. -/
def wholeText (n : Int) : Except Failure Text :=
  let s := toString n
  if Digits.limit < (toString n.natAbs).length then
    .error (.unexpected .value ("Exceeds the limit (" ++ toString Digits.limit ++
      " digits) for integer string conversion; use sys.set_int_max_str_digits() to increase the limit"))
  else .ok s

/-- The text of a number. Several values of one result are shown as a list. -/
def formatNumber : Datum → Except Failure Text
  | .null => .ok "undefined"
  | .boolean b => .ok (if b then ("1" : String) else "0")
  | .integer n => wholeText n
  | .real x =>
    match BinaryValue.ofDouble x with
    | .nan => .ok "NaN"
    | .infinity negative => .ok (if negative then ("-Infinity" : String) else "Infinity")
    | v =>
      if v.isIntegral then .ok (toString (v.truncate?.getD 0))
      else .ok (NumberLayout.plain.writeDouble x)
  | d => .ok d.display

end SnippetService.Wasm
