import SnippetService.Http.Incoming
import SnippetService.Service.Request
import SnippetService.Text.Casing
/-!
Reading requests to execute a snippet from the bodies in which they come. A body is JSON if its media type
says so; of any other it is only known that it is no record.
-/
namespace SnippetService.Http

/-- What keeps a body from being read. -/
inductive BodyFault where
  /-- There is no text in it, or a value is too great. -/
  | unreadable
  | invalid (issues : List Issue)

/-- The two parts of a media type; parameters are left out. -/
def mediaType (value : String) : List Char × List Char :=
  let name := stripChars (value.toList.takeWhile (· != ';'))
  match splitAt '/' (Casing.toLower (String.ofList name)).toList with
  | [main, sub] => (main, sub)
  | _ => ("text".toList, "plain".toList)

/-- Whether a media type stands for JSON. -/
def isJson (value : String) : Bool :=
  let (main, sub) := mediaType value
  main == "application".toList && (sub == "json".toList || "+json".toList.isSuffixOf sub)

/-- The value of JSON bytes. -/
def readJson (bs : List UInt8) : Except BodyFault Datum :=
  match Encoding.decodeJson bs with
  | none => .error .unreadable
  | some s =>
    match Json.readText s with
    | .ok d => .ok d
    | .error f =>
      if f.problem.isSyntax then
        .error (.invalid [⟨.malformedJson f.problem.message, [.item f.position], .record []⟩])
      else .error .unreadable

/-- The value of a body. -/
def bodyDatum (i : Incoming) : Except BodyFault Datum :=
  if isJson ((i.header? "content-type").getD "") then readJson i.body else .ok (.bytes i.body)

/-- The issues of a body, seen from the request. -/
def atBody (issues : List Issue) : List Issue := issues.map (Issue.within (.field "body"))

/-- The request in a body. -/
def readRequest (i : Incoming) : Except BodyFault Request :=
  if i.body.isEmpty then .error (.invalid (atBody [⟨.missing, [], .null⟩]))
  else
    match bodyDatum i with
    | .error .unreadable => .error .unreadable
    | .error (.invalid is) => .error (.invalid (atBody is))
    | .ok d => (Request.read d .notARecord).mapError fun is => .invalid (atBody is)

end SnippetService.Http
