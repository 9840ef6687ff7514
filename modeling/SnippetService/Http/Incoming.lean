import SnippetService.Data.Json
import SnippetService.Http.Host
import SnippetService.Text.Encoding
/-!
Requests as they come in, and the addresses to which they are sent.
-/
namespace SnippetService.Http

/-- A request as it comes in. -/
structure Incoming where
  method : String
  /-- The decoded path, which begins with a slash. -/
  path : String
  /-- What stands behind the path in the address, after a question mark. -/
  query : List UInt8 := []
  headers : List (String × String) := []
  body : List UInt8 := []
  /-- The host that sent the request. -/
  client : String
  /-- The host to which it was sent, unless a header names one. -/
  server : String := ""

/-- A name in small letters; the case of a header's name does not matter. -/
def lowerName (s : String) : String := String.ofList (s.toList.map Char.toLower)

/-- The value of the first header of a name. -/
def Incoming.header? (i : Incoming) (name : String) : Option String :=
  (i.headers.find? fun h => lowerName h.1 == lowerName name).map (·.2)

/-- What ends the path in an address. -/
def endsPath (c : Char) : Bool := c == '?' || c == '#'

/-- What ends the host in an address. -/
def endsHost (c : Char) : Bool := c == '/' || endsPath c

/-- The host and the path behind it as they stand in an address, which is on one line. -/
def Incoming.location (i : Incoming) : List Char :=
  (((i.header? "host").getD i.server).toList ++ i.path.toList).filter fun c =>
    c != '\t' && c != '\n' && c != '\r'

/-- The path as it is told to the operator. It is taken from the address, so a host may add to it, and a host that
cannot be told leaves none. Nor does a query that is no text. -/
def Incoming.shownPath? (i : Incoming) : Option String :=
  if Host.isTellable (i.location.takeWhile fun c => !endsHost c) && Encoding.isUtf8 i.query then
    some (String.ofList ((i.location.dropWhile fun c => !endsHost c).takeWhile fun c => !endsPath c))
  else none

namespace Address

/-- The bytes of ASCII text, in which a percent sign before two hexadecimal digits makes a byte. -/
def percentBytes : List Char → List UInt8
  | '%' :: a :: b :: rest =>
    match Json.hexValue? a, Json.hexValue? b with
    | some x, some y => UInt8.ofNat (x * 16 + y) :: percentBytes rest
    | _, _ => 37 :: percentBytes (a :: b :: rest)
  | c :: rest => UInt8.ofNat c.toNat :: percentBytes rest
  | [] => []

/-- Decode runs of ASCII characters; `run` is the present one, its last character first. -/
def decodeRuns (run : List Char) : List Char → List Char
  | [] => Encoding.decodeLossy (percentBytes run.reverse)
  | c :: rest =>
    if c.toNat < 128 then decodeRuns (c :: run) rest
    else Encoding.decodeLossy (percentBytes run.reverse) ++ c :: decodeRuns [] rest

/-- Undo the writing of bytes with percent signs. -/
def percentDecode (cs : List Char) : List Char := decodeRuns [] cs

/-- The parts between slashes; the last of those found comes first. A part of one dot leads nowhere, and
one of two dots leads back. -/
def walk (found : List (List Char)) : List (List Char) → List (List Char)
  | [] => found.reverse
  | ['.'] :: rest => walk found rest
  | ['.', '.'] :: rest => walk (if found = [[]] then found else found.drop 1) rest
  | part :: rest => walk (part :: found) rest

/-- A path without the parts that are dots. -/
def withoutDots (cs : List Char) : List Char :=
  ['/'].intercalate (walk [] (splitAt '/' cs))

/-- The path of an address. It is decoded twice: where the address is taken apart, and where the request
is handed on. -/
def path (address : String) : String :=
  let written := address.toList.takeWhile fun c => !endsPath c
  let plain := withoutDots ('/' :: written.dropWhile (· == '/'))
  String.ofList (percentDecode (percentDecode (if plain.isEmpty then ['/'] else plain)))

end Address

end SnippetService.Http
