import SnippetService.Script.Reading.Statement
/-!
Whole programs. The grammar of depth `n` reads text whose parts are nested at most `n` deep; deeper
text is refused.
-/
namespace SnippetService.Script

namespace Grammar

open Reading

/-- The grammar for text nested up to a depth. -/
def ofDepth : Nat → Grammar
  | 0 =>
    { assignment := fun _ => fail .tooDeep
      unary := fun _ => fail .tooDeep
      access := fun _ => fail .tooDeep
      pattern := fun _ => fail .tooDeep
      statement := fun _ => fail .tooDeep
      function := fun _ => fail .tooDeep
      classNode := fun _ => fail .tooDeep }
  | n + 1 =>
    { assignment := fun inOk => assignmentExpression (ofDepth n) inOk
      unary := fun rule => unaryExpression (ofDepth n) rule
      access := fun calls => accessExpression (ofDepth n) calls
      pattern := fun use => structuredPattern (ofDepth n) use
      statement := fun rule => statementText (ofDepth n) rule
      function := fun use => functionText (ofDepth n) use
      classNode := fun needsName => classText (ofDepth n) needsName }

/-- How deep a text may be nested. -/
def depthLimit : Nat := 800

/-- The statements of a program up to the end of the text. -/
def programStatements (g : Grammar) : Nat → List Stmt → Reading (List Stmt)
  | 0, found => return found.reverse
  | fuel + 1, found => do
    if ← atEnd then return found.reverse
    else
      let s ← sourceElement g
      programStatements g fuel (s :: found)

end Grammar

/-- What surrounds a program that is read. -/
structure ProgramContext where
  strict : Bool := false
  /-- Whether the variables of code that is not strict become global properties. -/
  globalVars : Bool := false
  superCall : Bool := false
  superMember : Bool := false
  newTarget : Bool := false
  arguments : Bool := true

namespace Program

/-- Read a program. Its functions and classes are added to the code table. -/
def read (source : Units) (context : ProgramContext) (table : CodeTable) :
    Except ReadFault (Program × CodeTable) :=
  let rules : BodyRules :=
    { isProgram := true
      superCall := context.superCall
      superMember := context.superMember
      newTarget := context.newTarget
      arguments := context.arguments }
  let r : Reading Program := do
    let _ ← Grammar.directives
    let strict := (← Reading.body).strict
    Reading.modifyBody fun b =>
      { b with rules := { b.rules with globalVars := context.globalVars && !strict } }
    let g := Grammar.ofDepth Grammar.depthLimit
    let body ← Grammar.programStatements g (← Grammar.rounds) []
    let b ← Reading.body
    let declared : Declared := match b.scopes with
      | [] => ⟨[], []⟩
      | top :: _ => ⟨top.names.reverse, top.functions.reverse⟩
    return { strict := b.strict, vars := b.vars, declared := declared, body := body }
  match Lexeme.read source context.strict 0 with
  | .error fault => .error fault
  | .ok first =>
    let start : ReaderState :=
      { source := source, lexeme := first, lastStop := 0
        body := { rules := rules, strict := context.strict, inBody := true }
        table := table }
    match r start with
    | .ok program s => .ok (program, s.table)
    | .error fault _ => .error fault

end Program

end SnippetService.Script
