import SnippetService.Script.Reading.Pattern
/-!
Functions and classes. Both become entries of the code table; what the surrounding text keeps is an
index.
-/
namespace SnippetService.Script.Grammar

open Reading

/-- Whether the text of the current string token, without its quotes, asks for strict code. -/
def asksStrict : Reading Bool := do
  let s ← get
  return s.source.slice (s.lexeme.start + 1) (s.lexeme.stop - 1) == "use strict"

/-- Whether a directive ends before the current token. -/
def directiveEnds : Reading Bool := do
  match ← token with
  | .mark m => return m == ";" || m == "\x7d" || ((m == "++" || m == "--") && (← afterLine))
  | .endOfInput => return true
  | _ => return (← afterLine)

/-- Walk over the directives and report whether one of them asks for strict code. -/
def directivesFrom : Nat → Bool → Reading Bool
  | 0, found => return found
  | fuel + 1, found => do
    match ← token with
    | .string _ =>
      let strict ← asksStrict
      advance
      if ← directiveEnds then
        let _ ← accept ";"
        directivesFrom fuel (found || strict)
      else return found
    | _ => return found

/-- Take the directives at the start of a body into account. They are read again as statements. -/
def directives : Reading Bool := do
  let found ← lookAhead do directivesFrom (← rounds) false
  if found then
    modifyBody fun b => { b with strict := true }
    reread
  return found

/-- Read in a body of its own, and give back the surrounding body. -/
def inBody {α : Type} (inner : OpenBody) (r : Reading α) : Reading (α × OpenBody) := do
  let outer ← body
  modifyBody fun _ => inner
  let a ← r
  let inner ← body
  modifyBody fun _ => outer
  return (a, inner)

/-- One statement or declaration of a function's or program's own level, where functions are
variables. -/
def sourceElement (g : Grammar) : Reading Stmt := do
  let start := (← get).lexeme.start
  let isAsync ← if ← isWord "async" then
      match ← peek with
      | some l => pure (Lexeme.isWord l "function" && !l.afterLine)
      | none => pure false
    else pure false
  if isAsync || (← isWord "function") then
    if isAsync then advance
    let (_, f) ← g.function { role := .statement, start := start, isAsync := isAsync }
    modifyScope fun s => { s with functions := f :: s.functions }
    return .empty
  else g.statement ⟨true, true, true⟩

/-- The statements of a function body up to its closing brace. -/
def bodyStatements (g : Grammar) : Nat → List Stmt → Reading (List Stmt)
  | 0, found => return found.reverse
  | fuel + 1, found => do
    if ← isMark "\x7d" then return found.reverse
    else
      let s ← sourceElement g
      bodyStatements g fuel (s :: found)

/-- The parameters of a function, after the opening parenthesis, up to and with the closing one.
The arity counts the parameters before the first that is optional. -/
def parameters (g : Grammar) : Nat → Bool → Nat → List Pattern → Reading (List Pattern × Nat)
  | 0, _, arity, found => return (found.reverse, arity)
  | fuel + 1, optional, arity, found => do
    if ← accept ")" then return (found.reverse, arity)
    else
      let isRest ← accept "..."
      let (p, hasDefault) ← if (← isMark "[") || (← isMark "\x7b") then do
          let target ← g.pattern { declarator := some .var, isParameter := true }
          if isRest then pure (Pattern.rest target, true)
          else
            let p ← withDefault g target
            pure (p, match p with | .withDefault _ _ => true | _ => false)
        else match ← identifier? with
          | none => fail .missingParameter
          | some name => do
            let name ← usable name
            modifyBody fun b => { b with params := b.params ++ [name] }
            advance
            if isRest then pure (Pattern.rest (.name name), true)
            else
              let p ← withDefault g (.name name)
              pure (p, match p with | .withDefault _ _ => true | _ => false)
      let optional := optional || hasDefault
      let arity := if optional then arity else arity + 1
      if ← accept ")" then return ((p :: found).reverse, arity)
      else if isRest then fail (.expecting ")")
      else
        expect ","
        parameters g fuel optional arity (p :: found)

/-- Whether a list has a repeated member. -/
def hasRepeat : List Units → Bool
  | [] => false
  | n :: rest => rest.contains n || hasRepeat rest

def isSimple : Pattern → Bool
  | .name _ => true
  | _ => false

/-- Check the names of a function once it is known whether its body is strict. -/
def checkNames (role : FunctionRole) (name : Units) (simple useStrict : Bool) : Reading Unit := do
  let b ← body
  let reserved (n : Units) : Bool := n == "eval" || n == "arguments"
  if b.strict && !simple && useStrict then fail .strictDirective
  else if b.strict && reserved name then fail .strictFunctionName
  else if b.strict && b.params.any reserved then fail .strictArgumentName
  else if (b.strict || !simple || role == .arrow || role == .method) &&
      (hasRepeat b.params || b.params.any b.paramParts.contains) then
    fail .duplicateArgument

/-- The name after `function`, if there is one. -/
def functionName (role : FunctionRole) : Reading Units := do
  match ← identifier? with
  | some name =>
    let name ← usable name
    advance
    return name
  | none =>
    let b ← body
    let word := (← word?).getD {}
    if role == .expression && ((word == "yield" && !b.strict) || word == "await") then
      advance
      return word
    else if role == .expression then return {}
    else fail .functionNameExpected

/-- The rules of a function's body, from its role and the rules around it. -/
def rulesFor (use : FunctionUse) (isGenerator : Bool) (outer : BodyRules) : BodyRules :=
  let isArrow := use.role == .arrow
  let isMethod := match use.role with
    | .method | .getter | .setter | .constructor _ => true
    | _ => false
  { isAsync := use.isAsync
    isGenerator := isGenerator
    isArrow := isArrow
    superCall := if isArrow then outer.superCall else use.role == .constructor true
    superMember := if isArrow then outer.superMember else isMethod
    newTarget := if isArrow then outer.newTarget else true
    arguments := if isArrow then outer.arguments else true }

/-- The kind a role makes. -/
def kindOf : FunctionRole → FunctionKind
  | .arrow => .arrow
  | .method => .method
  | .getter => .getter
  | .setter => .setter
  | .constructor derived => .constructor derived
  | _ => .plain

/-- A function from its keyword, or from its parameters if it has none. Gives its name and index. -/
def functionText (g : Grammar) (use : FunctionUse) : Reading (Units × Nat) := do
  let keyed := use.role == .statement || use.role == .inBlock || use.role == .expression
  if keyed then advance
  let isGenerator ← if keyed then accept "*" else pure use.isGenerator
  let name ← if keyed then functionName use.role else pure {}
  if use.role == .inBlock then declareLexical name false true
  else if use.role == .statement then declareVar name
  let outer ← body
  let start : OpenBody :=
    { rules := rulesFor use isGenerator outer.rules, strict := outer.strict }
  let ((node, isBlock), inner) ← inBody start do
    let (params, arity) ← if use.role == .arrow && !(← isMark "(") then
        match ← identifier? with
        | none => fail .missingParameter
        | some param => do
          let param ← usable param
          modifyBody fun b => { b with params := [param] }
          advance
          pure ([Pattern.name param], 1)
      else do
        expect "("
        parameters g (← rounds) false 0 []
    if (use.role == .getter && params.length != 0) ||
        (use.role == .setter && params.length != 1) then
      fail .accessorArity
    modifyBody fun b => { b with inBody := true }
    let simple := params.all isSimple
    if use.role == .arrow then expect "=>"
    let (body, source, isBlock) ← if use.role == .arrow && !(← isMark "\x7b") then do
        checkNames use.role name simple false
        let e ← g.assignment true
        pure ([Stmt.returnValue e], ← textFrom use.start, false)
      else do
        expect "\x7b"
        let useStrict ← directives
        checkNames use.role name simple useStrict
        let body ← bodyStatements g (← rounds) []
        let s ← get
        pure (body, s.source.slice use.start s.lexeme.stop, true)
    let b ← Reading.body
    let declared : Declared := match b.scopes with
      | [] => ⟨[], []⟩
      | top :: _ => ⟨top.names.reverse, top.functions.reverse⟩
    return (
      { name := name
        kind := kindOf use.role
        isAsync := use.isAsync
        isGenerator := isGenerator
        strict := b.strict
        arity := arity
        simpleParams := simple
        ownName := use.role == .expression && !name.isEmpty
        usesArguments := b.usesArguments
        params := params
        paramNames := b.params ++ b.paramParts
        vars := b.vars
        declared := declared
        body := body
        source := source : FunctionNode }, isBlock)
  -- The closing brace is consumed under the rules of the surrounding body.
  if isBlock then advance
  if node.kind == .arrow && inner.usesArguments then
    modifyBody fun b => { b with usesArguments := true }
  let index ← addFunction node
  return (name, index)

/-- The function that computes the initial value of a field. -/
def fieldValue (g : Grammar) (key : Option Units) : Reading Nat := do
  let outer ← body
  let start : OpenBody :=
    { rules := { superMember := true, newTarget := true, arguments := false }
      strict := outer.strict
      inBody := true }
  let (e, _) ← inBody start (g.assignment true)
  let e ← match key with
    | some text => nameValue text e
    | none => pure e
  addFunction
    { name := {}, kind := .initializer, isAsync := false, isGenerator := false, strict := true
      arity := 0, simpleParams := true, ownName := false, usesArguments := false, params := []
      paramNames := [], vars := [], declared := ⟨[], []⟩, body := [.returnValue e], source := {} }

/-- Whether `static` is a modifier here and not a name. -/
def staticModifier : Reading Bool := do
  if ← isWord "static" then
    match ← peek with
    | some l => return !([";", "\x7d", "(", "="].any (Lexeme.isMark l))
    | none => return true
  else return false

/-- The members of a class up to the closing brace. -/
def classMembers (g : Grammar) (derived : Bool) :
    Nat → Option Nat → List ClassMember → Reading (Option Nat × List ClassMember)
  | 0, ctor, found => return (ctor, found.reverse)
  | fuel + 1, ctor, found => do
    if ← isMark "\x7d" then return (ctor, found.reverse)
    else if ← accept ";" then classMembers g derived fuel ctor found
    else
      let isStatic ← staticModifier
      if isStatic then advance
      let start := (← get).lexeme.start
      let name ← memberName g true false true
      let text := name.text.getD {}
      let isFixed := name.text.isSome
      if (isFixed && text == "constructor" && !isStatic && name.form != .plain) ||
          (isFixed && text == "prototype" && isStatic) || text == "#constructor" then
        fail .invalidMethodName
      else if name.form == .plain && !(← isMark "(") then
        if isFixed && (text == "constructor" || text == "prototype") then fail .invalidFieldName
        else
          let value ← if ← accept "=" then
              let f ← fieldValue g name.text
              pure (some f)
            else pure none
          expectEnd
          classMembers g derived fuel ctor (⟨isStatic, .value, name.key, value⟩ :: found)
      else
        let isConstructor := isFixed && text == "constructor" && !isStatic
        if isConstructor && ctor.isSome then fail .duplicateConstructor
        else
          let (role, kind) : FunctionRole × MemberKind := match name.form with
            | .getter => (.getter, .getter)
            | .setter => (.setter, .setter)
            | _ => (if isConstructor then .constructor derived else .method, .method)
          let (_, f) ← g.function
            { role := role
              start := start
              isAsync := name.form == .async || name.form == .asyncGenerator
              isGenerator := name.form == .generator || name.form == .asyncGenerator }
          if isConstructor then classMembers g derived fuel (some f) found
          else classMembers g derived fuel ctor (⟨isStatic, kind, name.key, some f⟩ :: found)

/-- A class from its keyword. All its code is strict. -/
def classText (g : Grammar) (needsName : Bool) : Reading (Units × Nat) := do
  let start := (← get).lexeme.start
  let strict := (← body).strict
  modifyBody fun b => { b with strict := true }
  advance
  let name ← match ← identifier? with
    | some name => do
      let name ← usable name
      advance
      pure name
    | none => if needsName then fail .classNameExpected else pure {}
  let parent ← if ← isWord "extends" then
      advance
      let e ← g.access true
      pure (some e)
    else pure none
  expect "\x7b"
  let (ctor, members) ← classMembers g parent.isSome (← rounds) none []
  let s ← get
  let source := s.source.slice start s.lexeme.stop
  modifyBody fun b => { b with strict := strict }
  advance
  -- A constructor goes by the name of its class.
  match ctor with
  | none => pure ()
  | some i => modify fun s => { s with table := { s.table with
      functions := s.table.functions.modify i fun f => { f with name := name, source := source } } }
  let index ← addClass
    { name := name, parent := parent, constructor := ctor, members := members, source := source }
  return (name, index)

end SnippetService.Script.Grammar
