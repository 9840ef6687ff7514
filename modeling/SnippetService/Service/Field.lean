import SnippetService.Service.LooseNumber
/-!
The reading of single values. A value of another kind is taken if it can only mean one thing: bytes that
are text, a truth value as a number, or a number as text.
-/
namespace SnippetService.Field

/-- The text of bytes, if they are one. -/
def textOfBytes? (data : List UInt8) : Option String := String.fromUTF8? ⟨data.toArray⟩

def text (d : Datum) : Checked Text :=
  match d with
  | .text s => .ok s
  | .bytes data =>
    match textOfBytes? data with
    | some s => .ok s
    | none => .fail .undecodableText d
  | d => .fail .text d

def list (d : Datum) : Checked (List Datum) :=
  match d with
  | .list items => .ok items
  | d => .fail .list d

/-- The value of a result, or the rule that is broken. -/
def orFail {α : Type} (r : Except IssueKind α) (d : Datum) : Checked α :=
  match r with
  | .ok a => .ok a
  | .error kind => .fail kind d

/-- Read a text that has to be a string. -/
def onPlain {α : Type} (read : String → Except IssueKind α) (s : Text) : Except IssueKind α :=
  match s.plain? with
  | some s => read s
  | none => .error .undecodableText

/-- The greatest size of a float that is taken for a whole number. -/
def wholeBound : Int := Int.pow 2 63

/-- A float as a whole number. -/
def wholeOfReal (x : Float) : Except IssueKind Int :=
  let v := BinaryValue.ofDouble x
  match v.truncate? with
  | none => .error .notFinite
  | some n =>
    if !v.isIntegral then .error .wholeWithFraction
    else if -wholeBound < n ∧ n < wholeBound then .ok n
    else .error .wholeTooLong

def whole (d : Datum) : Checked Int :=
  match d with
  | .integer n => .ok n
  | .boolean b => .ok (if b then 1 else 0)
  | .real x => orFail (wholeOfReal x) d
  | .text s => orFail (onPlain LooseNumber.readWhole s) d
  | .bytes data =>
    match textOfBytes? data with
    | some s => orFail (LooseNumber.readWhole s) d
    | none => .fail .unreadableWhole d
  | d => .fail .whole d

def real (d : Datum) : Checked Float :=
  match d with
  | .real x => .ok x
  | .integer n => .ok (doubleOfInt n)
  | .boolean b => .ok (if b then 1.0 else 0.0)
  | .text s => orFail (onPlain LooseNumber.readReal s) d
  | .bytes data =>
    match textOfBytes? data with
    | some s => orFail (LooseNumber.readReal s) d
    | none => .fail .unreadableReal d
  | d => .fail .real d

/-- The words for truth values. -/
def falseWords : List String := ["0", "f", "n", "no", "off", "false"]

def trueWords : List String := ["1", "t", "y", "on", "yes", "true"]

def truthOfText (s : String) : Except IssueKind Bool :=
  let word := String.ofList (s.toList.map Char.toLower)
  if falseWords.contains word then .ok false
  else if trueWords.contains word then .ok true
  else .error .unreadableTruthValue

def truthOfInt (n : Int) : Except IssueKind Bool :=
  if n = 0 then .ok false
  else if n = 1 then .ok true
  else if -wholeBound ≤ n ∧ n < wholeBound then .error .unreadableTruthValue
  else .error .truthValue

def truthValue (d : Datum) : Checked Bool :=
  match d with
  | .boolean b => .ok b
  | .integer n => orFail (truthOfInt n) d
  | .real x =>
    match wholeOfReal x with
    | .ok n => orFail (truthOfInt n) d
    | .error _ => .fail .truthValue d
  | .text s => orFail (onPlain truthOfText s) d
  | .bytes data =>
    match textOfBytes? data with
    | some s => orFail (truthOfText s) d
    | none => .fail .unreadableTruthValue d
  | d => .fail .truthValue d

/-- A number: what is a number already stays as it is, and texts are read as whole numbers if they can
be, and as floats otherwise. -/
def number (d : Datum) : Checked Datum :=
  match d with
  | .real _ | .integer _ => .ok d
  | d =>
    match whole d, real d with
    | .ok n, _ => .ok (.integer n)
    | .error _, .ok x => .ok (.real x)
    | .error is, .error js =>
      .error (is.map (Issue.within (.field "int")) ++ js.map (Issue.within (.field "float")))

end SnippetService.Field
