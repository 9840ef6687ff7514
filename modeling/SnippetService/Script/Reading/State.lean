import SnippetService.Script.Token
import SnippetService.Script.Tree
/-!
What the reader of a script keeps: the token it looks at, the functions it is inside of, the names
each open block has declared, and the table of functions and classes read so far.
-/
namespace SnippetService.Script

/-- The names of an open block. -/
structure OpenScope where
  names : List LexicalName := []
  /-- Functions declared by name in this block; code that is not strict may repeat them. -/
  functionNames : List Units := []
  functions : List Nat := []
  /-- Variables of the whole body that are declared in this block or in one inside it. -/
  passing : List Units := []
  /-- The parameter of a `catch` whose block this is. -/
  caught : List Units := []

/-- A statement that `break` or `continue` can leave. -/
structure JumpTarget where
  label : Option Units
  isLoop : Bool

/-- Where a body stands that may or may not hold certain words. -/
structure BodyRules where
  isAsync : Bool := false
  isGenerator : Bool := false
  isArrow : Bool := false
  /-- A program rather than a function: it cannot return. -/
  isProgram : Bool := false
  /-- Whether the variables of a program become properties of the global object. -/
  globalVars : Bool := false
  superCall : Bool := false
  superMember : Bool := false
  newTarget : Bool := false
  arguments : Bool := true

/-- A function or program whose text is being read. -/
structure OpenBody where
  rules : BodyRules
  strict : Bool
  /-- Whether the parameters are done. -/
  inBody : Bool := false
  params : List Units := []
  /-- Names bound by the parts of structured parameters. -/
  paramParts : List Units := []
  vars : List Units := []
  scopes : List OpenScope := [{}]
  targets : List JumpTarget := []
  usesArguments : Bool := false

structure ReaderState where
  source : Units
  lexeme : Lexeme
  /-- The end of the token before. -/
  lastStop : Nat
  body : OpenBody
  table : CodeTable

abbrev Reading := EStateM ReadFault ReaderState

namespace Reading

def fail {α : Type} (fault : ReadFault) : Reading α := throw fault

def body : Reading OpenBody := return (← get).body

def modifyBody (f : OpenBody → OpenBody) : Reading Unit :=
  modify fun s => { s with body := f s.body }

def token : Reading Token := return (← get).lexeme.token

/-- Go on to the next token. -/
def advance : Reading Unit := do
  let s ← get
  match Lexeme.read s.source s.body.strict s.lexeme.stop with
  | .error fault => fail fault
  | .ok next => set { s with lexeme := next, lastStop := s.lexeme.stop }

/-- Look at the current token again, as the rules for it have changed. -/
def reread : Reading Unit := do
  let s ← get
  match Lexeme.read s.source s.body.strict s.lexeme.start with
  | .error fault => fail fault
  | .ok next => set { s with lexeme := { next with afterLine := s.lexeme.afterLine } }

/-- The token after the current one, if it can be read. -/
def peek : Reading (Option Lexeme) := do
  let s ← get
  match Lexeme.read s.source s.body.strict s.lexeme.stop with
  | .error _ => return none
  | .ok next => return some next

/-- Run a reader and come back to where it began. -/
def lookAhead {α : Type} (r : Reading α) : Reading α := do
  let before ← get
  let a ← r
  set before
  return a

/-- Words that are never names. -/
def keywords : List Units := List.map Units.ofString
  ["null", "false", "true", "if", "else", "return", "var", "this", "delete", "void", "typeof",
    "new", "in", "instanceof", "do", "while", "for", "break", "continue", "switch", "case",
    "default", "throw", "try", "catch", "finally", "function", "debugger", "with", "class", "const",
    "enum", "export", "extends", "import", "super"]

/-- Words that are not names in strict code. -/
def strictKeywords : List Units := List.map Units.ofString
  ["implements", "interface", "let", "package", "private", "protected", "public", "static", "yield"]

/-- Whether a word is a keyword in a body. -/
def isKeyword (b : OpenBody) (word : Units) : Bool :=
  keywords.contains word || (b.strict && strictKeywords.contains word) ||
    (word == "yield" && b.rules.isGenerator) || (word == "await" && b.rules.isAsync)

/-- The current token as a name in use: its text, and whether it is a keyword spelled with
escapes. -/
def identifier? : Reading (Option (Units × Bool)) := do
  let s ← get
  match s.lexeme.token with
  | .name text escaped =>
    if isKeyword s.body text then return if escaped then some (text, true) else none
    else return some (text, false)
  | _ => return none

/-- The current token as a word of any kind. -/
def word? : Reading (Option Units) := do
  match ← token with
  | .name text _ => return some text
  | _ => return none

/-- Whether the current token is a keyword of the language, or a word that acts as one here. -/
def isWord (word : Units) : Reading Bool := do
  match ← token with
  | .name text escaped => return !escaped && text == word
  | _ => return false

/-- Whether the current token is a given keyword and is one in this body. -/
def isKeywordToken (word : Units) : Reading Bool := do
  return (← isWord word) && isKeyword (← body) word

def isMark (mark : String) : Reading Bool := do
  match ← token with
  | .mark text => return text == mark
  | _ => return false

/-- The current token as a mark; other tokens give the empty text. -/
def markText : Reading String := do
  match ← token with
  | .mark text => return text
  | _ => return ""

def Lexeme.isMark (l : Lexeme) (mark : String) : Bool :=
  match l.token with
  | .mark text => text == mark
  | _ => false

def Lexeme.isWord (l : Lexeme) (word : Units) : Bool :=
  match l.token with
  | .name text escaped => !escaped && text == word
  | _ => false

def atEnd : Reading Bool := do
  match ← token with
  | .endOfInput => return true
  | _ => return false

/-- Whether the next token is a given mark. -/
def peekMark (mark : String) : Reading Bool := do
  return match ← peek with
  | some l => Lexeme.isMark l mark
  | none => false

def afterLine : Reading Bool := return (← get).lexeme.afterLine

/-- Consume a mark that has to be there. -/
def expect (mark : String) : Reading Unit := do
  if ← isMark mark then advance else fail (.expecting mark)

/-- Consume a mark if it is there. -/
def accept (mark : String) : Reading Bool := do
  if ← isMark mark then
    advance
    return true
  else return false

/-- The end of a statement: a semicolon, or a place where one may be left out. -/
def expectEnd : Reading Unit := do
  if ← isMark ";" then advance
  else if (← atEnd) || (← isMark "\x7d") || (← afterLine) then return
  else fail (.expecting ";")

/-- The text of the current token. -/
def tokenText : Reading Units := do
  let s ← get
  return s.source.slice s.lexeme.start s.lexeme.stop

/-- The text from a position to the end of the token before. -/
def textFrom (start : Nat) : Reading Units := do
  let s ← get
  return s.source.slice start s.lastStop

/-- A name that must not be a keyword spelled with escapes. -/
def usable (name : Units × Bool) : Reading Units :=
  if name.2 then fail (.reservedName name.1) else return name.1

/-- Open a block around a reader and close it again, giving the names it declared. -/
def inScope {α : Type} (scope : OpenScope) (r : Reading α) : Reading (α × Declared) := do
  modifyBody fun b => { b with scopes := scope :: b.scopes }
  let a ← r
  match (← body).scopes with
  | [] => return (a, ⟨[], []⟩)
  | top :: rest =>
    modifyBody fun b => { b with scopes := rest }
    return (a, ⟨top.names.reverse, top.functions.reverse⟩)

/-- Change the innermost open block. -/
def modifyScope (f : OpenScope → OpenScope) : Reading Unit :=
  modifyBody fun b => match b.scopes with
    | [] => b
    | top :: rest => { b with scopes := f top :: rest }

/-- Declare a name of the innermost block. -/
def declareLexical (name : Units) (constant isFunction : Bool) : Reading Unit := do
  let b ← body
  match b.scopes with
  | [] => return
  | top :: rest =>
    let repeated := top.names.any (·.name == name) &&
      (b.strict || !isFunction || !top.functionNames.contains name)
    if repeated || top.caught.contains name then fail .lexicalRedefinition
    else if rest.isEmpty && !isFunction && b.params.contains name then fail .parameterRedefinition
    else if top.passing.contains name then
      fail (if b.rules.globalVars then .globalRedefinition else .variableRedefinition)
    else
      let known := top.names.any (·.name == name)
      modifyScope fun s =>
        { s with
          names := if known then s.names else ⟨name, constant⟩ :: s.names
          functionNames := if isFunction then name :: s.functionNames else s.functionNames }

/-- Declare a variable of the whole body. It may not share its name with a name that a block on the
way declares. -/
def declareVar (name : Units) : Reading Unit := do
  let b ← body
  if b.scopes.any fun s => s.names.any (·.name == name) then fail .lexicalRedefinition
  else
    modifyBody fun b =>
      { b with
        vars := if b.vars.contains name then b.vars else b.vars ++ [name]
        scopes := b.scopes.map fun s => { s with passing := name :: s.passing } }

/-- Declare a variable that a block-level function also reaches, unless a block on the way has the
name. -/
def declareOuterFunction (name : Units) : Reading Bool := do
  let b ← body
  if (b.scopes.drop 1).any (fun s => s.names.any (·.name == name)) || b.params.contains name then
    return false
  else
    modifyBody fun b => { b with vars := if b.vars.contains name then b.vars else b.vars ++ [name] }
    return true

/-- Declare a name as a declarator asks. -/
def declare (declarator : Declarator) (name : Units) : Reading Unit := do
  let b ← body
  if name == "yield" && b.rules.isGenerator then fail .yieldAsName
  else if (name == "arguments" || name == "eval") && b.strict then fail .strictVariable
  else if (name == "let" || name == "undefined") && declarator != .var then
    fail .invalidLexicalName
  else match declarator with
    | .var => declareVar name
    | .let => declareLexical name false false
    | .const => declareLexical name true false

/-- Put a function into the table. -/
def addFunction (f : FunctionNode) : Reading Nat := do
  let s ← get
  set { s with table := { s.table with functions := s.table.functions.push f } }
  return s.table.functions.size

def addClass (c : ClassNode) : Reading Nat := do
  let s ← get
  set { s with table := { s.table with classes := s.table.classes.push c } }
  return s.table.classes.size

/-- A fresh place for a tagged template. -/
def addSite : Reading Nat := do
  let s ← get
  set { s with table := { s.table with sites := s.table.sites + 1 } }
  return s.table.sites

/-- Give a function or class without a name the name of what it is assigned to. -/
def nameValue (name : Units) (e : Expr) : Reading Expr := do
  match e with
  | .function i =>
    modify fun s => { s with table := { s.table with
      functions := s.table.functions.modify i fun f =>
        if f.name.isEmpty then { f with name := name } else f } }
    return e
  | .classOf i =>
    modify fun s => { s with table := { s.table with
      classes := s.table.classes.modify i fun c =>
        if c.name.isEmpty then { c with name := name } else c } }
    return e
  | _ => return e

/-- What was seen between a pair of brackets. -/
structure Survey where
  /-- The token after the closing bracket. -/
  after : Option Lexeme := none
  hasSemicolon : Bool := false
  hasEllipsis : Bool := false
  hasAssignment : Bool := false

/-- Whether a slash after a token begins a regular expression. -/
def slashBegins (b : OpenBody) : Token → Bool
  | .number _ | .bigint _ | .string _ | .regexp _ _ => false
  | .mark m => !(["--", "++", ")", "]", "\x7d"].contains m)
  | .name text escaped =>
    (!escaped && (text == "of" || text == "yield")) ||
      (isKeyword b text && text != "null" && text != "false" && text != "true" && text != "this")
  | _ => true

/-- Walk over tokens until the brackets that the first one opened are closed. -/
def surveyFrom : Nat → List String → Token → Survey → Reading Survey
  | 0, _, _, seen => return seen
  | fuel + 1, stack, last, seen => do
    let s ← get
    let b := s.body
    let step (stack : List String) (seen : Survey) : Reading Survey := do
      let s ← get
      match Lexeme.read s.source b.strict s.lexeme.stop with
      | .error _ => return seen
      | .ok next =>
        let current := s.lexeme.token
        set { s with lexeme := next, lastStop := s.lexeme.stop }
        if stack.isEmpty then return { seen with after := some next }
        else surveyFrom fuel stack current seen
    let template (stack : List String) : Reading Survey := do
      match (← get).lexeme.token with
      | .template _ _ true => step ("`" :: stack) seen
      | _ => step stack seen
    match s.lexeme.token with
    | .endOfInput => return seen
    | .template _ _ _ => template stack
    | .mark m =>
      if m == "(" || m == "[" || m == "\x7b" then
        if 254 ≤ stack.length then return seen else step (m :: stack) seen
      else if m == ")" then
        if stack.head? == some "(" then step stack.tail seen else return seen
      else if m == "]" then
        if stack.head? == some "[" then step stack.tail seen else return seen
      else if m == "\x7d" then
        if stack.head? == some "`" then
          match Lexeme.templatePart s.source s.lexeme.stop s.source.size s.lexeme.stop {} with
          | .error _ => return seen
          | .ok (token, stop) =>
            set { s with lexeme := { s.lexeme with token := token, stop := stop } }
            template stack.tail
        else if stack.head? == some "\x7b" then step stack.tail seen
        else return seen
      else if m == ";" then
        step stack (if stack.length == 1 then { seen with hasSemicolon := true } else seen)
      else if m == "..." then
        step stack (if stack.length == 1 then { seen with hasEllipsis := true } else seen)
      else if m == "=" then step stack { seen with hasAssignment := true }
      else if (m == "/" || m == "/=") && slashBegins b last then
        match Lexeme.regexp s.source s.lexeme.start with
        | .error _ => return seen
        | .ok (token, stop) =>
          set { s with lexeme := { s.lexeme with token := token, stop := stop } }
          step stack seen
      else step stack seen
    | _ => step stack seen

/-- Look past the bracket that the current token opens, and come back. -/
def survey : Reading Survey := do
  let s ← get
  lookAhead (surveyFrom (s.source.size + 1) [] .endOfInput {})

/-- Whether an arrow follows the bracket that the current token opens, on the same line. -/
def arrowFollows : Reading Bool := do
  match (← survey).after with
  | some l => return Lexeme.isMark l "=>" && !l.afterLine
  | none => return false

end Reading

end SnippetService.Script
