import SnippetService.Script.Reading.Expression
/-!
Structured targets: the patterns of declarations, parameters and assignments.
-/
namespace SnippetService.Script.Grammar

open Reading

/-- Bind a name of a pattern. -/
def bindName (use : PatternUse) (name : Units) : Reading Unit := do
  match use.declarator with
  | none => return
  | some declarator =>
    if use.isParameter then
      let b ← body
      if b.params.contains name || b.paramParts.contains name || b.vars.contains name then
        fail .duplicateParameter
      else modifyBody fun b => { b with paramParts := b.paramParts ++ [name] }
    else declare declarator name

/-- A name where a pattern declares one. -/
def declaredName (use : PatternUse) : Reading Units := do
  match ← identifier? with
  | some (name, spelled) =>
    if spelled || ((← body).strict && (name == "eval" || name == "arguments")) then
      fail .invalidDestructuring
    else
      let b ← body
      if use.isParameter &&
          (b.params.contains name || b.paramParts.contains name || b.vars.contains name) then
        fail .duplicateParameter
      else
        advance
        bindName use name
        return name
  | none => fail .invalidDestructuring

/-- A single target: a declared name, or a place when nothing is declared. -/
def singleTarget (g : Grammar) (use : PatternUse) : Reading Pattern := do
  match use.declarator with
  | some _ => return .name (← declaredName use)
  | none =>
    let e ← g.access true
    checkTarget .invalidDestructuring e

/-- A target and the value it takes by default. -/
def withDefault (g : Grammar) (target : Pattern) : Reading Pattern := do
  if ← accept "=" then
    let value ← g.assignment true
    let value ← match target with
      | .name text => nameValue text value
      | _ => pure value
    return .withDefault target value
  else return target

/-- Whether a structure begins here and one of some marks follows it. -/
def structureBefore (marks : List String) : Reading Bool := do
  if (← isMark "[") || (← isMark "\x7b") then
    match (← survey).after with
    | some l => return marks.any (Lexeme.isMark l)
    | none => return false
  else return false

/-- The properties of an object pattern. -/
def patternProperties (g : Grammar) (use : PatternUse) :
    Nat → List Pattern → Reading (List Pattern)
  | 0, found => return found.reverse
  | fuel + 1, found => do
    if ← isMark "\x7d" then return found.reverse
    else if ← accept "..." then
      let target ← singleTarget g use
      if ← isMark "\x7d" then return (.rest target :: found).reverse
      else fail .restMustBeLastProperty
    else
      let name ← memberName g false true false
      let p ← if name.form == .shorthand then do
          let text := name.text.getD {}
          let b ← body
          if use.isParameter &&
              (b.params.contains text || b.paramParts.contains text || b.vars.contains text) then
            fail .duplicateParameter
          else if b.strict && (text == "eval" || text == "arguments") then
            fail .invalidDestructuring
          else
            bindName use text
            withDefault g (.name text)
        else do
          -- The mark after the name is a colon, or the target that follows is refused.
          advance
          if ← structureBefore [",", "=", "\x7d"] then
            let target ← g.pattern use
            withDefault g target
          else
            let target ← singleTarget g use
            withDefault g target
      let found := .property name.key p :: found
      if ← isMark "\x7d" then return found.reverse
      else
        expect ","
        patternProperties g use fuel found

/-- The elements of an array pattern. -/
def patternElements (g : Grammar) (use : PatternUse) :
    Nat → List Pattern → Reading (List Pattern)
  | 0, found => return found.reverse
  | fuel + 1, found => do
    if ← isMark "]" then return found.reverse
    else
      let isRest ← accept "..."
      if isRest && ((← isMark ",") || (← isMark "]")) then fail .missingPattern
      else
        let p ← if ← isMark "," then pure .hole
          else if ← structureBefore [",", "=", "]"] then do
            if isRest then
              match (← survey).after with
              | some l => if Lexeme.isMark l "=" then fail .restWithDefault
              | none => pure ()
            let target ← g.pattern use
            if isRest then pure target else withDefault g target
          else do
            let target ← singleTarget g use
            if isRest then pure target else withDefault g target
        let found := (if isRest then .rest p else p) :: found
        if ← isMark "]" then return found.reverse
        else if isRest then fail .restMustBeLast
        else
          expect ","
          patternElements g use fuel found

/-- An object or array pattern. -/
def structuredPattern (g : Grammar) (use : PatternUse) : Reading Pattern := do
  if ← accept "\x7b" then
    let ps ← patternProperties g use (← rounds) []
    expect "\x7d"
    return .object ps
  else if ← accept "[" then
    let ps ← patternElements g use (← rounds) []
    expect "]"
    return .array ps
  else fail .invalidPattern

end SnippetService.Script.Grammar
