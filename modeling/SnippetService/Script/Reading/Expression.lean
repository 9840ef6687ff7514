import SnippetService.Numeric.Layout
import SnippetService.Script.Reading.State
/-!
Expressions. The parts of the grammar that contain one another are fields of a `Grammar`; each reader
here is written for any such grammar, and the grammar of a given depth is built from the next
smaller one.
-/
namespace SnippetService.Script

/-- Whether a power may follow an operand; after a unary operator it would be ambiguous. -/
inductive PowRule where
  | allowed | forbidden | none
  deriving DecidableEq

/-- What a structured target is used for. -/
structure PatternUse where
  declarator : Option Declarator
  isParameter : Bool := false

/-- Which declarations may stand where a statement is read. -/
structure StatementRule where
  functions : Bool
  labelledFunctions : Bool
  others : Bool

/-- No declaration may stand here. -/
def StatementRule.single : StatementRule := ⟨false, false, false⟩

/-- Any declaration may stand here. -/
def StatementRule.any : StatementRule := ⟨true, true, true⟩

/-- What a function is read as. -/
inductive FunctionRole where
  | statement | inBlock | expression | arrow | method | getter | setter
  | constructor (derived : Bool)
  deriving DecidableEq

/-- How a function is to be read: as what, where its text starts, and what is known from the words
before it. -/
structure FunctionUse where
  role : FunctionRole
  start : Nat
  isAsync : Bool := false
  isGenerator : Bool := false

structure Grammar where
  /-- An expression without a comma; `in` may be an operator or not. -/
  assignment : Bool → Reading Expr
  unary : PowRule → Reading Expr
  /-- A primary expression and the accesses after it; calls may be accepted or not. -/
  access : Bool → Reading Expr
  pattern : PatternUse → Reading Pattern
  statement : StatementRule → Reading Stmt
  function : FunctionUse → Reading (Units × Nat)
  /-- A class, after its keyword; a declaration needs a name. -/
  classNode : Bool → Reading (Units × Nat)

namespace Grammar

open Reading

/-- A bound for loops that consume at least one unit in each round. -/
def rounds : Reading Nat := return (← get).source.size + 2

def commaRest (g : Grammar) (inOk : Bool) : Nat → Expr → Reading Expr
  | 0, e => return e
  | fuel + 1, e => do
    if ← accept "," then
      let next ← g.assignment inOk
      commaRest g inOk fuel (.comma e next)
    else return e

/-- An expression with commas. -/
def expression (g : Grammar) (inOk : Bool := true) : Reading Expr := do
  let first ← g.assignment inOk
  commaRest g inOk (← rounds) first

/-- An expression in parentheses. -/
def parenthesized (g : Grammar) : Reading Expr := do
  expect "("
  let e ← expression g
  expect ")"
  return e

/-- The parts of a template, whose first text is the current token. -/
def templateParts (g : Grammar) (tagged : Bool) :
    Nat → List (Option Units × Units) → List Expr → Reading (List (Option Units × Units) × List Expr)
  | 0, texts, values => return (texts.reverse, values.reverse)
  | fuel + 1, texts, values => do
    let s ← get
    match s.lexeme.token with
    | .template start raw opens =>
      let cooked ← match Lexeme.quoted s.source ⟨0x60, s.body.strict, true⟩ s.source.size start {} with
        | .ok (value, _) => pure (some value)
        | .error fault => if tagged then pure none else fail fault
      let texts := (cooked, raw) :: texts
      advance
      if opens then
        let e ← expression g
        if ← isMark "\x7d" then
          let s ← get
          match Lexeme.templatePart s.source s.lexeme.stop s.source.size s.lexeme.stop {} with
          | .error fault => fail fault
          | .ok (token, stop) =>
            set { s with lexeme := ⟨token, s.lexeme.stop, stop, false⟩, lastStop := s.lexeme.stop }
            templateParts g tagged fuel texts (e :: values)
        else fail .templateEnd
      else return (texts.reverse, values.reverse)
    | _ => return (texts.reverse, values.reverse)

/-- The stages of an array literal: plain elements, then holes too, then spread values. -/
inductive ArrayStage where
  | plain | holes | spreads

/-- The elements of an array literal. Among holes the commas may be left out. -/
def elements (g : Grammar) : Nat → ArrayStage → List Expr → Reading (List Expr)
  | 0, _, found => return found.reverse
  | fuel + 1, stage, found => do
    if ← isMark "]" then return found.reverse
    else
      let comma ← isMark ","
      let ellipsis ← isMark "..."
      match stage with
      | .plain =>
        if comma || ellipsis || 32 ≤ found.length then elements g fuel .holes found
        else
          let e ← g.assignment true
          if (← accept ",") || (← isMark "]") then elements g fuel .plain (e :: found)
          else return (e :: found).reverse
      | .holes =>
        if ellipsis then elements g fuel .spreads found
        else
          let e ← if comma then pure .hole else g.assignment true
          let _ ← accept ","
          elements g fuel .holes (e :: found)
      | .spreads =>
        let e ← if ellipsis then
            advance
            let e ← g.assignment true
            pure (.spread e)
          else if comma then pure .hole
          else g.assignment true
        if ← accept "," then elements g fuel .spreads (e :: found)
        else return (e :: found).reverse

/-- An array literal, at its bracket. -/
def arrayLiteral (g : Grammar) : Reading Expr := do
  advance
  let items ← elements g (← rounds) .plain []
  expect "]"
  return .array items

/-- The arguments of a call, after the opening parenthesis, up to and with the closing one. -/
def arguments (g : Grammar) : Nat → List Expr → Reading (List Expr)
  | 0, found => return found.reverse
  | fuel + 1, found => do
    if ← accept ")" then return found.reverse
    else
      let e ← if ← accept "..." then
          let e ← g.assignment true
          pure (.spread e)
        else g.assignment true
      if ← accept ")" then return (e :: found).reverse
      else
        expect ","
        arguments g fuel (e :: found)

/-- What a member is, judged by the words before its name. -/
inductive NameForm where
  | plain | shorthand | getter | setter | generator | async | asyncGenerator
  deriving DecidableEq

/-- The form and the name of a member; a name without a fixed text is an expression. -/
structure MemberName where
  form : NameForm
  key : Expr
  /-- The name if it is a fixed text. -/
  text : Option Units

/-- Marks after which `get`, `set` and `async` are names of their own. -/
def endsShortName : Reading Bool := do
  return [":", ",", "\x7d", "(", "="].contains (← markText)

/-- A member name with the words before it. `methods` tells whether such words are allowed,
`shorthand` whether a variable may stand for its own value, `hidden` whether private names are. -/
def memberName (g : Grammar) (methods shorthand hidden : Bool) : Reading MemberName := do
  let finish (form : NameForm) (m : MemberName) : Reading MemberName := do
    if form != .plain && form != .shorthand && !(← isMark "(") then fail .invalidPropertyName
    else return { m with form := form }
  let named (form : NameForm) (text : Units) (reserved : Bool) : Reading MemberName := do
    let short := !reserved && form == .plain && shorthand &&
      !((← isMark ":") || ((← isMark "(") && methods))
    finish (if short then .shorthand else form) ⟨form, .string text, some text⟩
  let plainName (form : NameForm) : Reading MemberName := do
    match ← token with
    | .name text _ =>
      let reserved := match ← identifier? with
        | some (_, spelled) => spelled
        | none => true
      advance
      named form text reserved
    | .string text =>
      advance
      finish form ⟨form, .string text, some text⟩
    | .number value =>
      advance
      let text : Units := NumberLayout.script.writeDouble value
      finish form ⟨form, .string text, some text⟩
    | .bigint value =>
      advance
      let text : Units := toString value
      finish form ⟨form, .string text, some text⟩
    | .hiddenName text =>
      if hidden then
        advance
        finish form ⟨form, .hiddenName text, some text⟩
      else fail .invalidPropertyName
    | _ =>
      if ← accept "[" then
        let e ← expression g
        expect "]"
        finish form ⟨form, e, none⟩
      else fail .invalidPropertyName
  if !methods then plainName .plain
  else if (← isWord "get") || (← isWord "set") then
    let isGet ← isWord "get"
    advance
    if ← endsShortName then named .plain (if isGet then "get" else "set") false
    else plainName (if isGet then .getter else .setter)
  else if ← accept "*" then plainName .generator
  else if (← isWord "async") &&
      !(match ← peek with | some l => l.afterLine | none => false) then
    advance
    if ← endsShortName then named .plain "async" false
    else if ← accept "*" then plainName .asyncGenerator
    else plainName .async
  else plainName .plain

/-- The members of an object literal. -/
def members (g : Grammar) : Nat → Bool → List Member → Reading (List Member)
  | 0, _, found => return found.reverse
  | fuel + 1, hasProto, found => do
    if ← isMark "\x7d" then return found.reverse
    else
      let start := (← get).lexeme.start
      let (m, isProto) ← if ← accept "..." then do
          let e ← g.assignment true
          pure (Member.mk .spread .null e, false)
        else do
          let name ← memberName g true true false
          if name.form == .shorthand then
            pure (Member.mk .value name.key (.name (name.text.getD {})), false)
          else if ← isMark "(" then
            let role : FunctionRole := match name.form with
              | .getter => .getter
              | .setter => .setter
              | _ => .method
            let use : FunctionUse :=
              { role := role
                start := start
                isAsync := name.form == .async || name.form == .asyncGenerator
                isGenerator := name.form == .generator || name.form == .asyncGenerator }
            let (_, f) ← g.function use
            let kind : MemberKind := match name.form with
              | .getter => .getter
              | .setter => .setter
              | _ => .method
            pure (Member.mk kind name.key (.function f), false)
          else
            expect ":"
            let e ← g.assignment true
            match name.text with
            | some text =>
              if text == "__proto__" then
                if hasProto then fail .duplicateProto
                else pure (Member.mk .prototype .null e, true)
              else
                let e ← nameValue text e
                pure (Member.mk .value name.key e, false)
            | none => pure (Member.mk .value name.key e, false)
      if ← accept "," then members g fuel (hasProto || isProto) (m :: found)
      else return (m :: found).reverse

/-- An object literal, at its brace. -/
def objectLiteral (g : Grammar) : Reading Expr := do
  advance
  let ms ← members g (← rounds) false []
  expect "\x7d"
  return .object ms

/-- Check that an expression is a place that can be assigned to; otherwise fail with a fault. -/
def checkTarget (fault : ReadFault) (e : Expr) : Reading Pattern := do
  match e with
  | .name text =>
    if (text == "arguments" || text == "eval") && (← body).strict then fail .strictTarget
    else return .name text
  | .member _ _ | .index _ _ | .hiddenMember _ _ | .superMember _ => return .place e
  | _ => fail fault

/-- A structured target with the value assigned to it. -/
def structuredAssignment (g : Grammar) : Reading Expr := do
  let p ← g.pattern { declarator := none }
  if ← accept "=" then
    let value ← g.assignment true
    return .assign p value
  else fail .complicatedPattern

/-- What `super` begins. -/
def superExpression (g : Grammar) : Reading Expr := do
  advance
  let rules := (← body).rules
  if ← isMark "(" then
    if rules.superCall then
      advance
      return .superCall (← arguments g (← rounds) [])
    else fail .superCallOutside
  else if ← isMark "." then
    if !rules.superMember then fail .superOutside
    else
      advance
      match ← token with
      | .name text _ =>
        advance
        return .superMember (.string text)
      | .hiddenName _ => fail .hiddenAfterSuper
      | _ => fail .expectingFieldName
  else if ← isMark "[" then
    if !rules.superMember then fail .superOutside
    else
      advance
      let key ← expression g
      expect "]"
      return .superMember key
  else fail .invalidSuper

/-- What `new` begins, up to the arguments. -/
def newExpression (g : Grammar) : Reading Expr := do
  advance
  if ← accept "." then
    if ← isWord "target" then
      if (← body).rules.newTarget then
        advance
        return .newTarget
      else fail .newTargetOutside
    else fail .expectingTarget
  else
    let callee ← g.access false
    if ← accept "(" then return .construct callee (← arguments g (← rounds) [])
    else return .construct callee []

/-- What `import` begins inside an expression. -/
def importExpression (g : Grammar) (calls : Bool) : Reading Expr := do
  advance
  if ← accept "." then
    if ← isWord "meta" then fail .metaOutside else fail .metaExpected
  else
    expect "("
    if !calls then fail .invalidImport
    else
      let e ← g.assignment true
      expect ")"
      return .importCall e

/-- A name in use. -/
def nameExpression (name : Units) : Reading Expr := do
  let b ← body
  if name == "arguments" then
    if !b.rules.arguments then fail .argumentsInField
    else modifyBody fun b => { b with usesArguments := true }
  else if name == "eval" then modifyBody fun b => { b with usesArguments := true }
  return .name name

/-- A primary expression, and whether calls are accepted after it. -/
def primary (g : Grammar) (calls : Bool) : Reading (Expr × Bool) := do
  let start := (← get).lexeme.start
  let plain (r : Reading Expr) : Reading (Expr × Bool) := return (← r, calls)
  let literal (e : Expr) : Reading (Expr × Bool) := do
    advance
    return (e, calls)
  let unexpected : Reading (Expr × Bool) := do fail (.unexpectedToken (← tokenText))
  match ← token with
  | .number value => literal (.number value)
  | .bigint value => literal (.bigint value)
  | .string value => literal (.string value)
  | .template _ _ _ => plain do
    let (texts, values) ← templateParts g false (← rounds) [] []
    return .template (texts.map fun t => t.1.getD {}) values
  | .mark m =>
    if m == "(" then plain (parenthesized g)
    else if m == "[" || m == "\x7b" then plain do
      match (← survey).after with
      | some l =>
        if Lexeme.isMark l "=" then structuredAssignment g
        else if m == "[" then arrayLiteral g else objectLiteral g
      | none => if m == "[" then arrayLiteral g else objectLiteral g
    else if m == "/" || m == "/=" then
      let s ← get
      match Lexeme.regexp s.source s.lexeme.start with
      | .error fault => fail fault
      | .ok (.regexp b f, stop) =>
        set { s with lexeme := { s.lexeme with token := .regexp b f, stop := stop } }
        literal (.regexp b f)
      | .ok _ => unexpected
    else unexpected
  | .name text _ =>
    match ← identifier? with
    | some (name, spelled) =>
      if spelled then fail (.reservedName name)
      else if name == "async" then
        match ← peek with
        | some l =>
          if Lexeme.isWord l "function" && !l.afterLine then
            advance
            let (_, f) ← g.function { role := .expression, start := start, isAsync := true }
            return (.function f, calls)
          else
            advance
            return (.name name, calls)
        | none =>
          advance
          return (.name name, calls)
      else
        advance
        return (← nameExpression name, calls)
    | none =>
      if text == "function" then plain do
        let (_, f) ← g.function { role := .expression, start := start }
        return .function f
      else if text == "class" then plain do
        let (_, c) ← g.classNode false
        return .classOf c
      else if text == "null" then literal .null
      else if text == "this" then literal .this
      else if text == "true" then literal (.boolean true)
      else if text == "false" then literal (.boolean false)
      else if text == "new" then return (← newExpression g, true)
      else if text == "super" then plain (superExpression g)
      else if text == "import" then plain (importExpression g calls)
      else unexpected
  | _ => unexpected

/-- The property that an access names, after its point. -/
def namedAccess (object : Expr) : Reading Expr := do
  match ← token with
  | .name text _ =>
    advance
    return .member object text
  | .hiddenName text =>
    advance
    return .hiddenMember object text
  | _ => fail .expectingFieldName

/-- The accesses after an expression. -/
def accesses (g : Grammar) (calls : Bool) : Nat → Bool → Expr → Reading Expr
  | 0, _, e => return e
  | fuel + 1, inChain, e => do
    let close (e : Expr) : Reading Expr := return if inChain then .chain e else e
    match ← token with
    | .template _ _ _ =>
      if inChain then fail .templateInChain
      else
        let site ← addSite
        let (texts, values) ← templateParts g true (← rounds) [] []
        accesses g calls fuel inChain (.tagged e site texts values)
    | .mark m =>
      if m == "?." then
        advance
        if (← isMark "(") && calls then
          advance
          let args ← arguments g (← rounds) []
          accesses g calls fuel true (.call (.optional e) args)
        else if ← accept "[" then
          let key ← expression g
          expect "]"
          accesses g calls fuel true (.index (.optional e) key)
        else accesses g calls fuel true (← namedAccess (.optional e))
      else if m == "(" && calls then
        advance
        let args ← arguments g (← rounds) []
        accesses g calls fuel inChain (.call e args)
      else if m == "." then
        advance
        accesses g calls fuel inChain (← namedAccess e)
      else if m == "[" then
        advance
        let key ← expression g
        expect "]"
        accesses g calls fuel inChain (.index e key)
      else close e
    | _ => close e

/-- A primary expression and the accesses after it. -/
def accessExpression (g : Grammar) (calls : Bool) : Reading Expr := do
  let (e, calls) ← primary g calls
  accesses g calls (← rounds) false e

/-- Deleting names and private members is refused. -/
def deleteExpression (g : Grammar) : Reading Expr := do
  advance
  let e ← g.unary .forbidden
  match e with
  | .name _ => if (← body).strict then fail .deleteName else return .delete e
  | .hiddenMember _ _ => fail .deleteHidden
  | _ => return .delete e

/-- An operand with the operators before and after it, and whether a power may follow. -/
def operand (g : Grammar) (rule : PowRule) : Reading (Expr × PowRule) := do
  let m ← markText
  let prefixed (make : Expr → Expr) : Reading (Expr × PowRule) := do
    advance
    return (make (← g.unary .forbidden), .none)
  if m == "+" then prefixed (.unary .plus)
  else if m == "-" then prefixed (.unary .minus)
  else if m == "!" then prefixed (.unary .not)
  else if m == "~" then prefixed (.unary .complement)
  else if m == "++" || m == "--" then
    advance
    let e ← g.unary .none
    let _ ← checkTarget .invalidUpdateOperand e
    return (.update true (if m == "++" then 1 else -1) e, rule)
  else if ← isWord "void" then prefixed .voidOf
  else if ← isWord "typeof" then prefixed .typeOf
  else if ← isWord "delete" then return (← deleteExpression g, .none)
  else if ← isKeywordToken "await" then
    let b ← body
    if !b.rules.isAsync then fail .unexpectedAwait
    else if !b.inBody then fail .awaitInDefault
    else prefixed .await
  else
    let e ← accessExpression g true
    let m ← markText
    if (m == "++" || m == "--") && !(← afterLine) then
      let _ ← checkTarget .invalidUpdateOperand e
      advance
      return (.update false (if m == "++" then 1 else -1) e, rule)
    else return (e, rule)

/-- An operand and the power it is raised to. -/
def unaryExpression (g : Grammar) (rule : PowRule) : Reading Expr := do
  let (e, left) ← operand g rule
  if left != .none && (← isMark "**") then
    if left == .forbidden then fail .powAfterUnary
    else
      advance
      return .binary .pow e (← g.unary .allowed)
  else return e

/-- The operators of each strength, from the one that binds most tightly. -/
def operatorAt (level : Nat) (inOk : Bool) : Reading (Option BinaryOp) := do
  let m ← markText
  match level with
  | 1 => return if m == "*" then some .mul else if m == "/" then some .div
      else if m == "%" then some .rem else none
  | 2 => return if m == "+" then some .add else if m == "-" then some .sub else none
  | 3 => return if m == "<<" then some .shiftLeft else if m == ">>" then some .shiftRight
      else if m == ">>>" then some .shiftRightZero else none
  | 4 =>
    if m == "<" then return some .less
    else if m == ">" then return some .greater
    else if m == "<=" then return some .lessEqual
    else if m == ">=" then return some .greaterEqual
    else if ← isWord "instanceof" then return some .isInstance
    else if inOk && (← isWord "in") then return some .isIn
    else return none
  | 5 => return if m == "==" then some .equal else if m == "!=" then some .notEqual
      else if m == "===" then some .same else if m == "!==" then some .notSame else none
  | 6 => return if m == "&" then some .bitAnd else none
  | 7 => return if m == "^" then some .bitXor else none
  | _ => return if m == "|" then some .bitOr else none

/-- Operators of one strength, from left to right. -/
def operators (level : Nat) (inOk : Bool) (next : Reading Expr) : Nat → Expr → Reading Expr
  | 0, left => return left
  | fuel + 1, left => do
    match ← operatorAt level inOk with
    | none => return left
    | some op =>
      advance
      operators level inOk next fuel (.binary op left (← next))

/-- An expression of binary operators up to a strength. -/
def binaryExpression (g : Grammar) (inOk : Bool) : Nat → Reading Expr
  | 0 => g.unary .allowed
  | level + 1 => do
    let left ← binaryExpression g inOk level
    operators (level + 1) inOk (binaryExpression g inOk level) (← rounds) left

/-- A run of one logical operator. -/
def logicalRest (mark : String) (op : LogicalOp) (next : Reading Expr) : Nat → Expr → Reading Expr
  | 0, left => return left
  | fuel + 1, left => do
    if ← accept mark then
      let left := .logical op left (← next)
      if (← isMark "??") && op != .coalesce then fail .mixedCoalesce
      else logicalRest mark op next fuel left
    else return left

def conjunction (g : Grammar) (inOk : Bool) : Reading Expr := do
  let first ← binaryExpression g inOk 8
  logicalRest "&&" .and (binaryExpression g inOk 8) (← rounds) first

def disjunction (g : Grammar) (inOk : Bool) : Reading Expr := do
  let first ← conjunction g inOk
  logicalRest "||" .or (conjunction g inOk) (← rounds) first

def coalescing (g : Grammar) (inOk : Bool) : Reading Expr := do
  let first ← disjunction g inOk
  logicalRest "??" .coalesce (binaryExpression g inOk 8) (← rounds) first

def conditional (g : Grammar) (inOk : Bool) : Reading Expr := do
  let test ← coalescing g inOk
  if ← accept "?" then
    let yes ← g.assignment true
    expect ":"
    let no ← g.assignment inOk
    return .conditional test yes no
  else return test

/-- The operator of an assignment that computes. -/
def computingOperator (mark : String) : Option BinaryOp :=
  match mark with
  | "+=" => some .add
  | "-=" => some .sub
  | "*=" => some .mul
  | "/=" => some .div
  | "%=" => some .rem
  | "**=" => some .pow
  | "<<=" => some .shiftLeft
  | ">>=" => some .shiftRight
  | ">>>=" => some .shiftRightZero
  | "&=" => some .bitAnd
  | "|=" => some .bitOr
  | "^=" => some .bitXor
  | _ => none

def logicalOperator (mark : String) : Option LogicalOp :=
  match mark with
  | "&&=" => some .and
  | "||=" => some .or
  | "??=" => some .coalesce
  | _ => none

/-- A function or class assigned to a name takes that name if the assignment began with it. -/
def namedIf (first : Option Units) (target value : Expr) : Reading Expr :=
  match target with
  | .name text => if first == some text then nameValue text value else return value
  | _ => return value

/-- What `yield` begins. -/
def yieldExpression (g : Grammar) (inOk : Bool) : Reading Expr := do
  let b ← body
  if !b.rules.isGenerator then fail .unexpectedYield
  else if !b.inBody then fail .yieldInDefault
  else
    advance
    let m ← markText
    if [";", ")", "]", "\x7d", ",", ":"].contains m || (← afterLine) || (← atEnd) then
      return .yield .undefined
    else if ← accept "*" then return .yieldAll (← g.assignment inOk)
    else return .yield (← g.assignment inOk)

/-- Whether an arrow function begins at the current token, which is after `async` if `isAsync`. -/
def arrowBegins (isAsync : Bool) : Reading Bool := do
  if ← isMark "(" then arrowFollows
  else match ← identifier? with
    | some (_, spelled) =>
      if spelled && isAsync then return false
      else match ← peek with
        | some l => return Lexeme.isMark l "=>" && !l.afterLine
        | none => return false
    | none => return false

/-- Whether `async` begins an arrow function here. -/
def asyncArrowBegins : Reading Bool := do
  if !(← isWord "async") then return false
  else match ← peek with
    | none => return false
    | some l =>
      if Lexeme.isWord l "function" || l.afterLine then return false
      else lookAhead do
        advance
        arrowBegins true

/-- An expression without a comma. -/
def assignmentExpression (g : Grammar) (inOk : Bool) : Reading Expr := do
  let start := (← get).lexeme.start
  if ← isKeywordToken "yield" then yieldExpression g inOk
  else if ← asyncArrowBegins then
    advance
    let (_, f) ← g.function { role := .arrow, start := start, isAsync := true }
    return .function f
  else if ← arrowBegins false then
    let (_, f) ← g.function { role := .arrow, start := start }
    return .function f
  else
    let first := (← identifier?).map (·.1)
    let target ← conditional g inOk
    let m ← markText
    if m == "=" then
      advance
      let place ← checkTarget .invalidAssignment target
      let value ← g.assignment inOk
      return .assign place (← namedIf first target value)
    else match computingOperator m with
      | some op =>
        advance
        let _ ← checkTarget .invalidAssignment target
        return .assignOp op target (← g.assignment inOk)
      | none =>
        match logicalOperator m with
        | some op =>
          advance
          let _ ← checkTarget .invalidAssignment target
          let value ← g.assignment inOk
          return .assignLogical op target (← namedIf first target value)
        | none => return target

end Grammar

end SnippetService.Script
