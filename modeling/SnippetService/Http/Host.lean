import SnippetService.Text.Blank
/-!
The hosts that addresses name. Brackets stand around the address of a host that has colons in it.
-/
namespace SnippetService.Http.Host

def isHexDigit (c : Char) : Bool :=
  ('0' ≤ c && c ≤ '9') || ('a' ≤ c && c ≤ 'f') || ('A' ≤ c && c ≤ 'F')

/-- The part of a text before the first place where a character stands, and the part behind it. -/
def partition (separator : Char) (cs : List Char) : List Char × List Char :=
  (cs.takeWhile (· != separator), (cs.dropWhile (· != separator)).drop 1)

/-- Whether a text is one of the four numbers of an address. -/
def isOctet (cs : List Char) : Bool :=
  !cs.isEmpty && cs.length ≤ 3 && cs.all (fun c => '0' ≤ c && c ≤ '9') &&
    (cs == ['0'] || cs.head? != some '0') && cs.foldl (fun n c => n * 10 + (c.toNat - 48)) 0 ≤ 255

/-- Whether a text is an address of four numbers. -/
def isQuad (cs : List Char) : Bool :=
  let parts := splitAt '.' cs
  parts.length == 4 && parts.all isOctet

/-- Whether a text is one of the eight groups of an address. -/
def isGroup (cs : List Char) : Bool := !cs.isEmpty && cs.length ≤ 4 && cs.all isHexDigit

/-- The groups of an address, of which the last two may be written as four numbers. -/
def groups (cs : List Char) : Option (List (List Char)) :=
  let parts := splitAt ':' cs
  match parts.getLast? with
  | some last =>
    if last.contains '.' then if isQuad last then some (parts.dropLast ++ [['0'], ['0']]) else none
    else some parts
  | none => none

/-- Whether groups with a gap make an address: a group that is empty at an end belongs to the gap. -/
def fillGap (before behind : List (List Char)) : Bool :=
  let before := if before == [[]] then [] else before
  let behind := if behind == [[]] then [] else behind
  before.length + behind.length < 8 && before.all isGroup && behind.all isGroup

/-- Whether groups make an address: eight of them, or fewer with one gap. -/
def groupsFit (parts : List (List Char)) : Bool :=
  match (parts.drop 1).dropLast.findIdx? List.isEmpty with
  | none => parts.length == 8 && parts.all isGroup
  | some i => fillGap (parts.take (i + 1)) (parts.drop (i + 2))

/-- Whether a text is an address of groups. A zone may follow. -/
def isGrouped (cs : List Char) : Bool :=
  let (address, zone) := partition '%' cs
  !cs.contains '/' && (!cs.contains '%' || (!zone.isEmpty && !zone.contains '%')) &&
    (splitAt ':' address).length ≥ 3 && (groups address).any groupsFit

/-- Whether a text is an address of a kind yet to come: a mark with a number, a dot, and anything. -/
def isFuture (cs : List Char) : Bool :=
  match cs with
  | 'v' :: rest =>
    let (number, more) := partition '.' rest
    !number.isEmpty && number.all isHexDigit && !more.isEmpty
  | _ => false

/-- Whether a host can be told: what stands in brackets has to be an address, and no bracket stands alone. -/
def isTellable (host : List Char) : Bool :=
  if host.contains '[' && host.contains ']' then
    let inner := (partition ']' (partition '[' host).2).1
    if inner.head? == some 'v' then isFuture inner else isGrouped inner
  else !host.contains '[' && !host.contains ']'

end SnippetService.Http.Host
