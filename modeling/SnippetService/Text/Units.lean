/-!
Text as a sequence of 16-bit code units. Characters past the basic plane are two units, a high and a
low surrogate; a sequence may also hold surrogates that are not paired.
-/
namespace SnippetService

/-- A sequence of UTF-16 code units. -/
structure Units where
  data : Array UInt16
  deriving DecidableEq, Inhabited

namespace Units

/-- The units of one character. -/
def ofChar (c : Char) : List UInt16 :=
  let n := c.toNat
  if n < 0x10000 then [UInt16.ofNat n]
  else [UInt16.ofNat (0xD800 + (n - 0x10000) / 0x400), UInt16.ofNat (0xDC00 + (n - 0x10000) % 0x400)]

/-- The units of one code point, which may be a surrogate on its own. -/
def ofCodePoint (n : Nat) : Units :=
  if n < 0x10000 then ⟨#[UInt16.ofNat n]⟩
  else ⟨#[UInt16.ofNat (0xD800 + (n - 0x10000) / 0x400),
    UInt16.ofNat (0xDC00 + (n - 0x10000) % 0x400)]⟩

/-- The units of a text. -/
def ofString (s : String) : Units := ⟨(s.toList.flatMap ofChar).toArray⟩

instance : Coe String Units := ⟨ofString⟩

def size (s : Units) : Nat := s.data.size

def isEmpty (s : Units) : Bool := s.data.isEmpty

instance : Append Units := ⟨fun a b => ⟨a.data ++ b.data⟩⟩

def empty : Units := ⟨#[]⟩

instance : EmptyCollection Units := ⟨empty⟩

/-- The unit at an index, if there is one. -/
def get? (s : Units) (i : Nat) : Option UInt16 := s.data[i]?

/-- The unit at an index as a number; past the end it is zero. -/
def unit (s : Units) (i : Nat) : Nat := (s.data.getD i 0).toNat

/-- The units from one index up to another. -/
def slice (s : Units) (start stop : Nat) : Units := ⟨s.data.extract start stop⟩

def push (s : Units) (unit : UInt16) : Units := ⟨s.data.push unit⟩

def toList (s : Units) : List UInt16 := s.data.toList

def ofList (us : List UInt16) : Units := ⟨us.toArray⟩

def isHigh (n : Nat) : Bool := 0xD800 ≤ n && n ≤ 0xDBFF

def isLow (n : Nat) : Bool := 0xDC00 ≤ n && n ≤ 0xDFFF

/-- The code point that a high and a low surrogate stand for. -/
def pair (high low : Nat) : Nat := 0x10000 + (high - 0xD800) * 0x400 + (low - 0xDC00)

/-- The code points of a sequence; a surrogate without its partner stands for itself. -/
def codePointsOf (found : Array Nat) : List UInt16 → Array Nat
  | [] => found
  | [u] => found.push u.toNat
  | u :: v :: rest =>
    if isHigh u.toNat && isLow v.toNat then codePointsOf (found.push (pair u.toNat v.toNat)) rest
    else codePointsOf (found.push u.toNat) (v :: rest)

def codePoints (s : Units) : List Nat := (codePointsOf #[] s.toList).toList

/-- The code point that starts at an index and the number of its units. -/
def codePointAt (s : Units) (i : Nat) : Nat × Nat :=
  let u := s.unit i
  if isHigh u && isLow (s.unit (i + 1)) then (pair u (s.unit (i + 1)), 2) else (u, 1)

/-- The text of a sequence. A surrogate without its partner has no character and becomes U+FFFD. -/
def toString (s : Units) : String :=
  String.ofList (s.codePoints.map fun n =>
    if 0xD800 ≤ n && n ≤ 0xDFFF then Char.ofNat 0xFFFD else Char.ofNat n)

/-- The order of the units, the first difference deciding. -/
def lt (a b : Units) : Bool := go (a.size + 1) 0
where
  go : Nat → Nat → Bool
    | 0, _ => false
    | fuel + 1, i =>
      match a.get? i, b.get? i with
      | none, some _ => true
      | _, none => false
      | some x, some y => if x < y then true else if y < x then false else go fuel (i + 1)

/-- Whether `t` stands at index `i` of `s`. -/
def matchesAt (s : Units) (i : Nat) (t : Units) : Bool :=
  i + t.size ≤ s.size && s.data.extract i (i + t.size) == t.data

/-- The first index from `start` on at which `t` stands. -/
def indexOf? (s t : Units) (start : Nat) : Option Nat := go (s.size + 1 - start) start
where
  go : Nat → Nat → Option Nat
    | 0, _ => none
    | fuel + 1, i =>
      if s.size < i + t.size then none
      else if s.matchesAt i t then some i
      else go fuel (i + 1)

/-- The last index up to `start` at which `t` stands. -/
def lastIndexOf? (s t : Units) (start : Nat) : Option Nat := go (start + 1)
where
  go : Nat → Option Nat
    | 0 => none
    | i + 1 => if s.matchesAt i t then some i else go i

/-- Several sequences one after another with a separator between them. -/
def join (separator : Units) : List Units → Units
  | [] => empty
  | [s] => s
  | s :: rest => rest.foldl (fun acc t => acc ++ separator ++ t) s

def replicate (n : Nat) (s : Units) : Units := n.fold (fun _ _ acc => acc ++ s) empty

end Units

end SnippetService
