/-!
Where requests go, by their method and path.
-/
namespace SnippetService.Http

/-- What the service offers. -/
inductive Route where
  | health
  /-- Execute a snippet that names its language. -/
  | execute
  /-- Execute a snippet in the language of the path. -/
  | executeIn (tag : String)
  deriving DecidableEq

namespace Route

/-- The one method of a route. -/
def method : Route → String
  | health => "GET"
  | execute | executeIn _ => "POST"

/-- Routes of a fixed path. -/
def fixed : List (String × Route) := [("/health", health), ("/v1/execute", execute)]

/-- What stands before the language in a path. -/
def languageRoot : String := "/v1/execute/"

/-- The last part of a path behind a given start, if it is one part and not empty. -/
def lastPart? (start path : String) : Option String :=
  let rest := path.toList.drop start.length
  if start.toList.isPrefixOf path.toList && !rest.isEmpty && !rest.contains '/' then
    some (String.ofList rest)
  else none

/-- The route of a path. A line break behind a fixed path is not seen. -/
def ofPath? (path : String) : Option Route :=
  match fixed.find? fun (p, _) => path == p || path == p ++ "\n" with
  | some (_, r) => some r
  | none => (lastPart? languageRoot path).map executeIn

end Route

/-- Where a request goes. -/
inductive Destination where
  | route (r : Route)
  /-- The path is known, but not with this method. -/
  | wrongMethod
  /-- The path is known without the slashes at its end. -/
  | elsewhere
  | unknown
  deriving DecidableEq

/-- A path without the slashes at its end. -/
def withoutSlashes (path : String) : String :=
  String.ofList (path.toList.reverse.dropWhile (· == '/')).reverse

/-- The destination of a request. -/
def Destination.of (method path : String) : Destination :=
  match Route.ofPath? path with
  | some r => if method == r.method then .route r else .wrongMethod
  | none =>
    let shorter := withoutSlashes path
    if path != "/" && shorter != path && (Route.ofPath? shorter).isSome then .elsewhere else .unknown

end SnippetService.Http
