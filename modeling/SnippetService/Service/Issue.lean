import SnippetService.Data.Datum
/-!
What is found wrong with incoming data: the rule that is broken, and the place of the value that breaks
it.
-/
namespace SnippetService

inductive IssueKind where
  | missing
  /-- The body is no record at all. -/
  | notARecord
  /-- A value that should be a request is no record. -/
  | notARequest
  | malformedJson (problem : String)
  | text
  | undecodableText
  | list
  | truthValue
  | unreadableTruthValue
  | whole
  | unreadableWhole
  | wholeTooLong
  | wholeWithFraction
  | notFinite
  | real
  | unreadableReal
  deriving DecidableEq

namespace IssueKind

/-- The name of the rule. -/
def code : IssueKind → String
  | missing => "missing"
  | notARecord => "model_attributes_type"
  | notARequest => "model_type"
  | malformedJson _ => "json_invalid"
  | text => "string_type"
  | undecodableText => "string_unicode"
  | list => "list_type"
  | truthValue => "bool_type"
  | unreadableTruthValue => "bool_parsing"
  | whole => "int_type"
  | unreadableWhole => "int_parsing"
  | wholeTooLong => "int_parsing_size"
  | wholeWithFraction => "int_from_float"
  | notFinite => "finite_number"
  | real => "float_type"
  | unreadableReal => "float_parsing"

def message : IssueKind → String
  | missing => "Field required"
  | notARecord => "Input should be a valid dictionary or object to extract fields from"
  | notARequest => "Input should be a valid dictionary or instance of ExecuteRequest"
  | malformedJson _ => "JSON decode error"
  | text => "Input should be a valid string"
  | undecodableText =>
    "Input should be a valid string, unable to parse raw data as a unicode string"
  | list => "Input should be a valid list"
  | truthValue => "Input should be a valid boolean"
  | unreadableTruthValue => "Input should be a valid boolean, unable to interpret input"
  | whole => "Input should be a valid integer"
  | unreadableWhole => "Input should be a valid integer, unable to parse string as an integer"
  | wholeTooLong => "Unable to parse input string as an integer, exceeded maximum size"
  | wholeWithFraction => "Input should be a valid integer, got a number with a fractional part"
  | notFinite => "Input should be a finite number"
  | real => "Input should be a valid number"
  | unreadableReal => "Input should be a valid number, unable to parse string as a number"

end IssueKind

/-- A step on the way to a value. -/
inductive PathStep where
  | field (name : String)
  | item (index : Nat)
  deriving DecidableEq

def PathStep.datum : PathStep → Datum
  | field name => .text name
  | item index => .integer index

structure Issue where
  kind : IssueKind
  path : List PathStep
  /-- The value that breaks the rule. -/
  input : Datum

namespace Issue

/-- An issue as seen from further out. -/
def within (step : PathStep) (i : Issue) : Issue := { i with path := step :: i.path }

/-- The kind, place and message of an issue. -/
def brief (i : Issue) : Datum :=
  .record [("type", .text i.kind.code), ("loc", .list (i.path.map PathStep.datum)),
    ("msg", .text i.kind.message)]

/-- An issue with the value that it is about. -/
def full (i : Issue) : Datum :=
  let context : List (Text × Datum) := match i.kind with
    | .malformedJson problem => [("ctx", .record [("error", .text problem)])]
    | _ => []
  let place : List (Text × Datum) := [("type", .text i.kind.code), ("loc", .list (i.path.map PathStep.datum)),
    ("msg", .text i.kind.message), ("input", i.input)]
  .record (place ++ context)

end Issue

/-- A value that is checked against rules: its reading, or all that is wrong with it. -/
abbrev Checked (α : Type) := Except (List Issue) α

namespace Checked

variable {α β : Type}

def fail (kind : IssueKind) (input : Datum) : Checked α := .error [⟨kind, [], input⟩]

/-- The reading of a part. -/
def within (step : PathStep) (r : Checked α) : Checked α := r.mapError fun is => is.map (Issue.within step)

/-- The issues of a reading. -/
def issues (r : Checked α) : List Issue :=
  match r with
  | .ok _ => []
  | .error is => is

/-- Two readings; the issues of both are kept. -/
def both (r : Checked α) (q : Checked β) : Checked (α × β) :=
  match r, q with
  | .ok a, .ok b => .ok (a, b)
  | r, q => .error (r.issues ++ q.issues)

/-- The readings of items one after another. -/
def items (read : Datum → Checked α) : Nat → List Datum → Checked (List α)
  | _, [] => .ok []
  | i, d :: ds => ((within (.item i) (read d)).both (items read (i + 1) ds)).map fun p => p.1 :: p.2

/-- A value that may be null. -/
def optional (read : Datum → Checked α) (d : Datum) : Checked (Option α) :=
  match d with
  | .null => .ok none
  | d => (read d).map some

end Checked

end SnippetService
