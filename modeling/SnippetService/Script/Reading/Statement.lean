import SnippetService.Script.Reading.Function
/-!
Statements. Each knows which jumps can leave it, and a block gathers the names declared in it.
-/
namespace SnippetService.Script.Grammar

open Reading

/-- Read inside a statement that jumps can leave. -/
def inTarget {α : Type} (target : JumpTarget) (r : Reading α) : Reading α := do
  modifyBody fun b => { b with targets := target :: b.targets }
  let a ← r
  modifyBody fun b => { b with targets := b.targets.drop 1 }
  return a

/-- The statements of a block up to its closing brace. -/
def blockRest (g : Grammar) : Nat → List Stmt → Reading (List Stmt)
  | 0, found => return found.reverse
  | fuel + 1, found => do
    if ← accept "\x7d" then return found.reverse
    else
      let s ← g.statement .any
      blockRest g fuel (s :: found)

/-- A block; `caught` are names of an enclosing `catch` that it may not declare. -/
def blockStatement (g : Grammar) (caught : List Units := []) : Reading Stmt := do
  expect "\x7b"
  let (body, declared) ← inScope { caught := caught } do blockRest g (← rounds) []
  return .block declared body

/-- One declared variable with its value. -/
def declaration (g : Grammar) (declarator : Declarator) (inOk : Bool) :
    Reading (Pattern × Option Expr) := do
  match ← identifier? with
  | some name =>
    let name ← usable name
    if name == "let" && declarator != .var then fail .letAsName
    else
      advance
      declare declarator name
      if ← accept "=" then
        let value ← g.assignment inOk
        return (.name name, some (← nameValue name value))
      else if declarator == .const then fail .missingInitializer
      else return (.name name, none)
  | none =>
    if ← structureBefore ["="] then
      let p ← g.pattern { declarator := some declarator }
      expect "="
      let value ← g.assignment true
      return (p, some value)
    else fail .variableNameExpected

/-- Declared variables, after the declarator. -/
def declarations (g : Grammar) (declarator : Declarator) (inOk : Bool) :
    Nat → List (Pattern × Option Expr) → Reading (List (Pattern × Option Expr))
  | 0, found => return found.reverse
  | fuel + 1, found => do
    let d ← declaration g declarator inOk
    if ← accept "," then declarations g declarator inOk fuel (d :: found)
    else return (d :: found).reverse

/-- Whether the word `let`, where it is not a keyword, begins a declaration. -/
def letBegins (others : Bool) : Reading Bool := do
  if !(← isWord "let") || isKeyword (← body) "let" then return false
  else lookAhead do
    advance
    if ← isMark "[" then return true
    else
      let named ← match ← token with
        | .name text _ =>
          pure ((← identifier?).isSome || text == "let" || text == "yield" || text == "await")
        | _ => isMark "\x7b"
      return named && (others || !(← afterLine))

/-- The declarator at the current token, if there is one. -/
def declarator? (others : Bool) : Reading (Option Declarator) := do
  if ← isWord "var" then return some .var
  else if ← isWord "const" then return some .const
  else if ← isKeywordToken "let" then return some .let
  else if ← letBegins others then return some .let
  else return none

/-- The head of a `for` with `in` or `of`, after the parenthesis, and what follows it. -/
def forEach (g : Grammar) (label : Option Units) (isAwait : Bool) : Reading Stmt := do
  let ((target, initial, isOf, object), declared) ← inScope {} do
    let declarator ← declarator? true
    let (p, structured) ← match declarator with
      | some d => do
        advance
        match ← identifier? with
        | some (name, false) => do
          advance
          declare d name
          pure (Pattern.name name, false)
        | _ =>
          if (← isMark "[") || (← isMark "\x7b") then
            pure (← g.pattern { declarator := some d }, true)
          else fail .variableNameExpected
      | none => do
        let structured ← if (← isMark "[") || (← isMark "\x7b") then
            match (← survey).after with
            | some l => pure (Lexeme.isWord l "in" || Lexeme.isWord l "of")
            | none => pure false
          else pure false
        if structured then
          pure (← withDefault g (← g.pattern { declarator := none }), true)
        else
          let e ← g.access true
          pure (← checkTarget .invalidForTarget e, false)
    let initial ← if ← accept "=" then
        let e ← g.assignment false
        pure (some e)
      else pure none
    let isOf ← isWord "of"
    if isOf then
      if initial.isSome then fail (.forHeadInitializer "of")
    else if ← isWord "in" then
      if isAwait then fail .forAwaitIn
      else if initial.isSome && (declarator != some .var || (← body).strict || structured) then
        fail (.forHeadInitializer "in")
    else fail .forHeadExpected
    advance
    let object ← if isOf then g.assignment true else expression g
    pure (ForTarget.mk declarator [] p, initial, isOf, object)
  expect ")"
  let target := { target with names := declared.names }
  let body ← inTarget ⟨label, true⟩ do inScope {} (g.statement .single)
  let loop := if isOf then Stmt.forOf target object body.1 else Stmt.forIn target object body.1
  match initial with
  | some e => return .block ⟨[], []⟩ [.vars .var [(target.target, some e)], loop]
  | none => return loop

/-- A `for` statement, after its keyword. -/
def forStatement (g : Grammar) (label : Option Units) : Reading Stmt := do
  let seen ← if ← isMark "(" then survey else pure {}
  let isAwait ← if (← isWord "await") && !(← isMark "(") then
      if (← body).rules.isAsync then
        advance
        pure true
      else fail .forAwaitOutside
    else pure false
  expect "("
  if !seen.hasSemicolon then forEach g label isAwait
  else
    let (loop, declared) ← inScope {} do
      let start ← if ← isMark ";" then pure ForStart.none
        else match ← declarator? true with
          | some d => do
            advance
            let ds ← declarations g d false (← rounds) []
            pure (ForStart.vars d [] ds)
          | none => do
            let e ← expression g false
            pure (ForStart.expr e)
      expect ";"
      let test ← if ← isMark ";" then pure none else
        let e ← expression g
        pure (some e)
      expect ";"
      let step ← if ← isMark ")" then pure none else
        let e ← expression g
        pure (some e)
      expect ")"
      let body ← inTarget ⟨label, true⟩ (g.statement .single)
      pure (start, test, step, body)
    let (start, test, step, body) := loop
    let start := match start with
      | .vars d _ ds => ForStart.vars d declared.names ds
      | other => other
    return .forLoop start test step body

/-- The label after `break` or `continue`, if there is one on the same line. -/
def jumpLabel : Reading (Option Units) := do
  if ← afterLine then return none
  else match ← identifier? with
    | some (name, false) => return some name
    | _ => return none

/-- A `break` or `continue`, after its keyword. -/
def jump (isContinue : Bool) : Reading Stmt := do
  let label ← jumpLabel
  let fits (t : JumpTarget) : Bool :=
    (!isContinue || t.isLoop) && (label.isNone || t.label == label)
  if (← body).targets.any fits then
    if label.isSome then advance
    expectEnd
    return if isContinue then .continueTo label else .breakTo label
  else fail (if label.isSome then .labelNotFound
    else if isContinue then .continueOutside else .breakOutside)

/-- The cases of a `switch`. Statements may stand only after a case. -/
def cases (g : Grammar) : Nat → Bool → Bool → List Stmt → Reading (List Stmt)
  | 0, _, _, found => return found.reverse
  | fuel + 1, inCase, hasDefault, found => do
    if ← isMark "\x7d" then return found.reverse
    else if ← isWord "case" then
      advance
      let e ← expression g
      expect ":"
      cases g fuel true hasDefault (.caseMark (some e) :: found)
    else if ← isWord "default" then
      advance
      expect ":"
      if hasDefault then fail .duplicateDefault
      else cases g fuel true true (.caseMark none :: found)
    else if !inCase then fail .invalidSwitch
    else
      let s ← g.statement .any
      cases g fuel true hasDefault (s :: found)

/-- A `switch` statement, after its keyword. -/
def switchStatement (g : Grammar) (label : Option Units) : Reading Stmt := do
  let value ← parenthesized g
  let (body, declared) ← inTarget ⟨label, false⟩ do
    inScope {} do
      expect "\x7b"
      cases g (← rounds) false false []
  expect "\x7d"
  return .switchOn value declared body

/-- The parameter of a `catch`, after its parenthesis, with the names its block may not declare. -/
def catchParameter (g : Grammar) : Reading (Pattern × List Units) := do
  match ← identifier? with
  | some (name, false) =>
    advance
    if (name == "arguments" || name == "eval") && (← body).strict then fail .strictVariable
    else return (.name name, [name])
  | _ =>
    if (← isMark "[") || (← isMark "\x7b") then
      let p ← g.pattern { declarator := some .let }
      return (← withDefault g p, [])
    else fail .identifierExpected

/-- A `try` statement, after its keyword. -/
def tryStatement (g : Grammar) : Reading Stmt := do
  let body ← blockStatement g
  let hasCatch ← isWord "catch"
  let guarded ← if hasCatch then do
      advance
      if ← isMark "\x7b" then
        let handler ← blockStatement g
        pure (Stmt.tryCatch body handler none [] true)
      else
        expect "("
        let ((param, handler), declared) ← inScope {} do
          let (param, caught) ← catchParameter g
          expect ")"
          let handler ← blockStatement g caught
          pure (param, handler)
        let names := match param with
          | .name name => ⟨name, false⟩ :: declared.names
          | _ => declared.names
        pure (Stmt.tryCatch body handler (some param) names true)
    else if ← isWord "finally" then pure (Stmt.tryCatch body .empty none [] false)
    else fail .expectingCatch
  if ← isWord "finally" then
    advance
    let last ← blockStatement g
    return .tryFinally guarded last
  else return guarded

/-- Whether a label begins here. -/
def labelBegins : Reading (Option Units) := do
  match ← identifier? with
  | some (name, false) => return if ← peekMark ":" then some name else none
  | _ => return none

/-- An expression as a statement. -/
def expressionStatement (g : Grammar) : Reading Stmt := do
  let e ← expression g
  expectEnd
  return .expr e

/-- A function declared among the statements of a block. -/
def blockFunction (g : Grammar) (start : Nat) (isAsync : Bool) : Reading Stmt := do
  let (name, f) ← g.function { role := .inBlock, start := start, isAsync := isAsync }
  modifyScope fun s => { s with functions := f :: s.functions }
  if !(← body).strict && !isAsync then
    if ← declareOuterFunction name then return .functionDecl name
    else return .empty
  else return .empty

/-- A statement whose first word is a keyword, if the current token is one. -/
def keywordStatement (g : Grammar) (rule : StatementRule) (label : Option Units) (word : Units) :
    Reading (Option Stmt) := do
  let start := (← get).lexeme.start
  if word == "return" then
    if (← body).rules.isProgram then fail .returnOutside
    else
      advance
      if (← isMark ";") || (← isMark "\x7d") || (← afterLine) then
        expectEnd
        return some (.returnValue .undefined)
      else
        let e ← expression g
        expectEnd
        return some (.returnValue e)
  else if word == "throw" then
    advance
    if ← afterLine then fail .lineAfterThrow
    else
      let e ← expression g
      expectEnd
      return some (.throwValue e)
  else if word == "if" then
    advance
    let mask : StatementRule := ⟨!(← body).strict, false, false⟩
    let ((test, yes, no), declared) ← inScope {} do
      let test ← parenthesized g
      let yes ← g.statement mask
      let no ← if ← isWord "else" then
          advance
          g.statement mask
        else pure .empty
      pure (test, yes, no)
    let result := Stmt.ifElse test yes no
    return some (if declared.functions.isEmpty then result else .block declared [result])
  else if word == "while" then
    advance
    let test ← parenthesized g
    let body ← inTarget ⟨label, true⟩ (g.statement .single)
    return some (.whileLoop test body)
  else if word == "do" then
    advance
    let body ← inTarget ⟨label, true⟩ (g.statement .single)
    if ← isWord "while" then advance else fail (.expecting "while")
    let test ← parenthesized g
    let _ ← accept ";"
    return some (.doWhile body test)
  else if word == "for" then
    advance
    return some (← forStatement g label)
  else if word == "break" then
    advance
    return some (← jump false)
  else if word == "continue" then
    advance
    return some (← jump true)
  else if word == "switch" then
    advance
    return some (← switchStatement g label)
  else if word == "try" then
    advance
    return some (← tryStatement g)
  else if word == "with" then
    if (← body).strict then fail .strictWith
    else
      advance
      let e ← parenthesized g
      let body ← g.statement .single
      return some (.withObject e body)
  else if word == "function" then
    let starFollows ← peekMark "*"
    if !rule.functions || (!rule.others && starFollows) then fail .functionAlone
    else return some (← blockFunction g start false)
  else if word == "class" then
    if !rule.others then fail .classAlone
    else
      let (name, c) ← g.classNode true
      declareLexical name false false
      return some (.classDecl name c)
  else if word == "debugger" then
    advance
    expectEnd
    return some .empty
  else if word == "enum" || word == "export" || word == "extends" then
    fail (.unsupportedKeyword word)
  else return none

/-- A statement without a label of its own. -/
def plainStatement (g : Grammar) (rule : StatementRule) (label : Option Units) : Reading Stmt := do
  let start := (← get).lexeme.start
  if ← isMark "\x7b" then blockStatement g
  else if ← accept ";" then return .empty
  else
    let declarator ← declarator? rule.others
    match declarator with
    | some d =>
      if d != .var && !rule.others then fail .lexicalAlone
      else
        advance
        let ds ← declarations g d true (← rounds) []
        expectEnd
        return .vars d ds
    | none =>
      match ← identifier? with
      | some (name, spelled) =>
        if spelled then fail (.reservedName name)
        else
          let isAsyncFunction ← if name == "async" then
              match ← peek with
              | some l => pure (Lexeme.isWord l "function" && !l.afterLine)
              | none => pure false
            else pure false
          if isAsyncFunction then
            if !rule.others then fail .functionAlone
            else
              advance
              blockFunction g start true
          else expressionStatement g
      | none =>
        match ← word? with
        | some word =>
          match ← keywordStatement g rule label word with
          | some s => return s
          | none => expressionStatement g
        | none => expressionStatement g

/-- A statement with its label, if it has one. Loops carry the label themselves, so that `continue`
can name them. -/
def statementText (g : Grammar) (rule : StatementRule) : Reading Stmt := do
  match ← labelBegins with
  | none => plainStatement g rule none
  | some label =>
    if (← body).targets.any fun t => t.label == some label then fail .duplicateLabel
    else
      advance
      expect ":"
      let isLoop := (← isWord "for") || (← isWord "do") || (← isWord "while")
      if isLoop then return .labelled label (← plainStatement g rule (some label))
      else
        let functions := !(← body).strict && rule.labelledFunctions
        let s ← inTarget ⟨some label, false⟩ (g.statement ⟨functions, functions, false⟩)
        return .labelled label s

end SnippetService.Script.Grammar
