import SnippetService.Script.Library.StringMethods
/-!
The object `JSON`: reading JSON text into values and writing values as JSON text.
-/
namespace SnippetService.Script.Library.JsonMethods

open Run Evaluate

/-- A character in a quoted text. -/
def escaped (c : Nat) : Units :=
  let hex (n : Nat) : List Char := [NumberMethods.digitChar (n / 4096 % 16), NumberMethods.digitChar (n / 256 % 16),
    NumberMethods.digitChar (n / 16 % 16), NumberMethods.digitChar (n % 16)]
  if c == 9 then "\\t" else if c == 10 then "\\n" else if c == 13 then "\\r"
  else if c == 8 then "\\b" else if c == 12 then "\\f"
  else if c == 34 then "\\\"" else if c == 92 then "\\\\"
  else if c < 32 || (0xD800 ≤ c && c ≤ 0xDFFF) then String.ofList (['\\', 'u'] ++ hex c)
  else Units.ofCodePoint c

/-- A text in quotes. -/
def quoted (s : Units) : Units :=
  "\"" ++ s.codePoints.foldl (fun found c => found ++ escaped c) {} ++ "\""

/-- How values are written. -/
structure Style where
  /-- A function that replaces values. -/
  replacer : Value := .undefined
  /-- The only properties to write, if they are given. -/
  chosen : Option (List Key) := none
  /-- What each level is indented by. -/
  gap : Units := {}

/-- What is written for a member: the answer of its own method and of the replacer. Functions, symbols
and `undefined` are left out. -/
def prepared (style : Style) (holder : Value) (k : Key) (v : Value) : Run Value := do
  let asks := match v with
    | .object _ | .bigint _ => true
    | _ => false
  let v ← if asks then do
      let f ← get v "toJSON"
      if ← isCallable f then call f v #[k.toValue] else pure v
    else pure v
  let v ← if style.replacer.isUndefined then pure v
    else call style.replacer holder #[k.toValue, v]
  match v with
  | .object _ => return if ← isCallable v then .undefined else v
  | .symbol _ => return .undefined
  | _ => return v

/-- The texts of members, with the line breaks and indents of a level. -/
def enclosed (style : Style) (indent opening closing : Units) (texts : List Units) : Units :=
  if style.gap.isEmpty then opening ++ Units.join "," texts ++ closing
  else if texts.isEmpty then opening ++ closing
  else
    let inner : Units := "\n" ++ indent ++ style.gap
    opening ++ inner ++ Units.join ("," ++ inner) texts ++ ("\n" ++ indent) ++ closing

/-- Write a prepared value. The stack holds the objects that are being written. -/
def write (style : Style) : Nat → List Nat → Units → Value → Run Units
  | 0, _, _, _ => fail .stackOverflow
  | fuel + 1, stack, indent, v => do
    match v with
    | .null => return "null"
    | .boolean b => return if b then "true" else "false"
    | .number x => return if x.isFinite then NumberText.write x else "null"
    | .string s => return quoted s
    | .bigint _ => fail .bigintInJson
    | .object ref =>
      match ← kindOf ref with
      | .string _ => return quoted (← toText v)
      | .number _ =>
        let x ← toNumber v
        return if x.isFinite then NumberText.write x else "null"
      | .boolean b => return if b then "true" else "false"
      | .bigint _ => fail .bigintInJson
      | _ =>
        if stack.contains ref then fail .circularReference
        else
          step
          let stack := ref :: stack
          let inner := indent ++ style.gap
          if ← isArray v then
            let n ← lengthOf v
            let texts : List Units ← (List.range n).mapM fun i => do
              let x ← prepared style v (.index i) (← get v (.index i))
              if x.isUndefined then return ("null" : Units) else write style fuel stack inner x
            return enclosed style indent "[" "]" texts
          else
            let keys ← match style.chosen with
              | some ks => pure ks
              | none => ObjectMethods.listedKeys ref
            let texts ← keys.filterMapM fun k => do
              let x ← prepared style v k (← get v k)
              if x.isUndefined then return none
              else
                let colon : Units := if style.gap.isEmpty then ":" else ": "
                return some (quoted (k.text?.getD {}) ++ colon ++ (← write style fuel stack inner x))
            return enclosed style indent "\x7b" "\x7d" texts
    | _ => return "null"

/-- How deep values may nest. -/
def depthLimit : Nat := 600

/-- The properties that a list names, each once. -/
def chosenKeys (v : Value) : Run (List Key) := do
  let vs ← elementsOf v
  vs.toList.foldlM (fun found x => do
    let named ← match x with
      | .string _ | .number _ => pure true
      | .object ref => match ← kindOf ref with
        | .string _ | .number _ => pure true
        | _ => pure false
      | _ => pure false
    if named then
      let k := Key.ofUnits (← toText x)
      return if found.contains k then found else found ++ [k]
    else return found) []

/-- What each level is indented by: a number of spaces or a text, at most ten long. -/
def gapOf (v : Value) : Run Units := do
  let v ← match v with
    | .object ref => match ← kindOf ref with
      | .number _ => pure (.number (← toNumber v))
      | .string _ => pure (.string (← toText v))
      | _ => pure v
    | _ => pure v
  match v with
  | .number x => return Units.replicate (clamp (NumberText.toInt x) 10) " "
  | .string s => return s.slice 0 (min 10 s.size)
  | _ => return {}

def stringify : Action := fun c => do
  let byFunction ← isCallable (c.arg 1)
  let chosen ← if !byFunction && (← isArray (c.arg 1)) then pure (some (← chosenKeys (c.arg 1)))
    else pure none
  let style : Style :=
    { replacer := if byFunction then c.arg 1 else .undefined
      chosen := chosen
      gap := ← gapOf (c.arg 2) }
  let holder ← newObject
  defineValue holder (.name {}) (c.arg 0)
  let v ← prepared style (.object holder) (.name {}) (c.arg 0)
  if v.isUndefined then return .undefined
  else return .string (← write style depthLimit [] {} v)

inductive TokenForm where
  | stop
  | string (s : Units)
  | number (x : Float)
  | word (s : Units)
  | mark (c : Nat)

structure Token where
  form : TokenForm
  start : Nat
  next : Nat

def unreadable {α : Type} (text : Units) : Run α := fail (.jsonText text)

/-- The units of a quoted text from a position on, and the position behind it. -/
def quotedText (s : Units) : Nat → Nat → Units → Run (Units × Nat)
  | 0, _, _ => unreadable "unexpected end of string"
  | fuel + 1, i, found => do
    let c := s.unit i
    if s.size ≤ i then unreadable "unexpected end of string"
    else if c < 32 then unreadable "invalid character in a JSON string"
    else if c == 34 then return (found, i + 1)
    else if c != 92 then quotedText s fuel (i + 1) (found ++ s.slice i (i + 1))
    else
      let d := s.unit (i + 1)
      let one (c : Nat) : Run (Units × Nat) := quotedText s fuel (i + 2) (found ++ Units.ofCodePoint c)
      if s.size ≤ i + 1 then unreadable "unexpected end of string"
      else if d == 110 then one 10 else if d == 116 then one 9 else if d == 114 then one 13
      else if d == 98 then one 8 else if d == 102 then one 12 else if d == 118 then one 11
      else if 48 ≤ d && d ≤ 57 then unreadable "malformed escape sequence in string literal"
      else if d == 117 then
        let (value, count, _) := Lexeme.digitsFrom (s.slice (i + 2) (min s.size (i + 6))) 16 false 4 0 0 0
        if count == 4 then quotedText s fuel (i + 6) (found ++ Units.ofCodePoint value)
        else unreadable "malformed escape sequence in string literal"
      else one d

/-- The length of the run of name characters at a position. -/
def wordEnd (s : Units) : Nat → Nat → Nat
  | 0, i => i
  | fuel + 1, i =>
    let c := s.unit i
    if i < s.size && c < 128 && Letters.isContinue c then wordEnd s fuel (i + 1) else i

/-- The token at a position. -/
def token (s : Units) : Nat → Nat → Run Token
  | 0, i => return ⟨.stop, i, i⟩
  | fuel + 1, i => do
    let c := s.unit i
    let digit (i : Nat) : Bool := 48 ≤ s.unit i && s.unit i ≤ 57
    if s.size ≤ i then return ⟨.stop, i, i⟩
    else if c == 32 || c == 9 || c == 10 || c == 13 then token s fuel (i + 1)
    else if c == 34 then
      let (text, next) ← quotedText s (s.size + 1) (i + 1) {}
      return ⟨.string text, i, next⟩
    else if c < 128 && Letters.isStart c then
      let next := wordEnd s (s.size + 1) i
      return ⟨.word (s.slice i next), i, next⟩
    else if (c == 45 && digit (i + 1)) || (digit i && !(c == 48 && digit (i + 1))) then
      match NumberText.signedAt s i with
      | some (x, next) => return ⟨.number x, i, next⟩
      | none => return ⟨.mark c, i, i + 1⟩
    else if 128 ≤ c then unreadable "unexpected character"
    else return ⟨.mark c, i, i + 1⟩

def nextToken (s : Units) (t : Token) : Run Token := token s (s.size + 1) t.next

def isMark (t : Token) (c : Char) : Bool :=
  match t.form with
  | .mark d => d == c.toNat
  | _ => false

/-- Pass a mark that has to stand here. -/
def expect (s : Units) (t : Token) (c : Char) : Run Token := do
  if isMark t c then nextToken s t
  else unreadable ("expecting '" ++ String.ofList [c] ++ "'")

/-- Read a value; the result tells the token behind it. -/
def value (s : Units) : Nat → Token → Run (Value × Token)
  | 0, _ => fail .stackOverflow
  | fuel + 1, t => do
    let bad : Run (Value × Token) :=
      unreadable ("unexpected token: '" ++ s.slice t.start t.next ++ "'")
    match t.form with
    | .stop => unreadable "unexpected end of input"
    | .string text => return (.string text, ← nextToken s t)
    | .number x => return (.number x, ← nextToken s t)
    | .word w =>
      if w == "true" then return (.boolean true, ← nextToken s t)
      else if w == "false" then return (.boolean false, ← nextToken s t)
      else if w == "null" then return (.null, ← nextToken s t)
      else bad
    | .mark 123 =>
      let ref ← newObject
      let t ← nextToken s t
      let t ← if isMark t '\x7d' then pure t else members s (value s fuel) ref (s.size + 1) t
      return (.object ref, ← expect s t '\x7d')
    | .mark 91 =>
      let t ← nextToken s t
      let (vs, t) ← if isMark t ']' then pure (#[], t)
        else elements s (value s fuel) (s.size + 1) t #[]
      let v ← newArray vs
      return (v, ← expect s t ']')
    | .mark _ => bad
where
  members (s : Units) (value : Token → Run (Value × Token)) (ref : Nat) : Nat → Token → Run Token
    | 0, t => return t
    | fuel + 1, t => do
      match t.form with
      | .string name =>
        let t ← expect s (← nextToken s t) ':'
        let (v, t) ← value t
        modifyObj ref fun o => o.store (Key.ofUnits name) (.plain v)
        if isMark t ',' then members s value ref fuel (← nextToken s t) else return t
      | _ => unreadable "expecting property name"
  elements (s : Units) (value : Token → Run (Value × Token)) :
      Nat → Token → Array Value → Run (Array Value × Token)
    | 0, t, found => return (found, t)
    | fuel + 1, t, found => do
      let (v, t) ← value t
      if isMark t ',' then elements s value fuel (← nextToken s t) (found.push v)
      else return (found.push v, t)

/-- Let a function replace the members of a value, inner ones first. -/
def revive (f : Value) : Nat → Value → Key → Run Value
  | 0, _, _ => fail .stackOverflow
  | fuel + 1, holder, k => do
    let v ← get holder k
    match v with
    | .object ref =>
      let keys ← if ← isArray v then pure ((List.range (← lengthOf v)).map Key.index)
        else ObjectMethods.listedKeys ref
      keys.forM fun key => do
        match ← revive f fuel v key with
        | .undefined => let _ ← deleteFrom chainLimit ref key
        | x => let _ ← define ref key (.ofEntry (.plain x)) false
    | _ => pure ()
    call f holder #[k.toValue, v]

def parse : Action := fun c => do
  let s ← toText (c.arg 0)
  let first ← token s (s.size + 1) 0
  let (v, t) ← value s depthLimit first
  match t.form with
  | .stop =>
    if ← isCallable (c.arg 1) then
      let holder ← newObject
      defineValue holder (.name {}) v
      revive (c.arg 1) depthLimit (.object holder) (.name {})
    else return v
  | _ => unreadable "unexpected data at the end"

def standardObject : StandardObject where
  place := .json
  features := [.method "parse" 2 parse, .method "stringify" 3 stringify, .tag "JSON"]

end SnippetService.Script.Library.JsonMethods
