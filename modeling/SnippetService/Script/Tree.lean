import SnippetService.Text.Units
/-!
The tree of a script. The reader has already resolved what depends on position in the text: which
names a block or a function declares, whether code is strict, and where a chain of optional accesses
ends. Functions and classes stand in a table of their own, and an expression names them by index, so
expressions do not contain statements.
-/
namespace SnippetService.Script

inductive UnaryOp where
  | plus | minus | complement | not

inductive BinaryOp where
  | add | sub | mul | div | rem | pow
  | shiftLeft | shiftRight | shiftRightZero
  | bitAnd | bitOr | bitXor
  | equal | notEqual | same | notSame
  | less | lessEqual | greater | greaterEqual
  | isIn | isInstance

inductive LogicalOp where
  | and | or | coalesce
  deriving DecidableEq

/-- How a variable is declared. -/
inductive Declarator where
  | var | let | const
  deriving DecidableEq

/-- What a function is called as. A method has a home object; an arrow takes `this` from outside. -/
inductive FunctionKind where
  | plain | arrow | method | getter | setter
  | constructor (derived : Bool)
  | initializer
  deriving DecidableEq

/-- A name that a block declares, and whether it can be assigned. -/
structure LexicalName where
  name : Units
  constant : Bool

/-- What kind of member an object literal or a class defines. -/
inductive MemberKind where
  | value | method | getter | setter | spread | prototype
  deriving DecidableEq

mutual

inductive Expr where
  | number (value : Float)
  | bigint (value : Int)
  | string (value : Units)
  | boolean (value : Bool)
  | null
  | undefined
  | regexp (body flags : Units)
  /-- Texts and values alternate, beginning and ending with a text. -/
  | template (texts : List Units) (values : List Expr)
  /-- A tagged template. A malformed escape leaves a text without a cooked form. -/
  | tagged (tag : Expr) (site : Nat) (texts : List (Option Units × Units)) (values : List Expr)
  | name (text : Units)
  | this
  | newTarget
  | array (items : List Expr)
  /-- A place without a value in an array literal. -/
  | hole
  /-- All values of an iterable, in an array literal or an argument list. -/
  | spread (e : Expr)
  | object (members : List Member)
  | function (index : Nat)
  | classOf (index : Nat)
  | unary (op : UnaryOp) (e : Expr)
  | typeOf (e : Expr)
  | voidOf (e : Expr)
  | delete (e : Expr)
  /-- `++` and `--`; `before` tells whether the operator precedes its operand. -/
  | update (before : Bool) (step : Int) (target : Expr)
  | binary (op : BinaryOp) (left right : Expr)
  | logical (op : LogicalOp) (left right : Expr)
  | conditional (test yes no : Expr)
  | assign (target : Pattern) (value : Expr)
  | assignOp (op : BinaryOp) (target value : Expr)
  | assignLogical (op : LogicalOp) (target value : Expr)
  | comma (first second : Expr)
  | call (callee : Expr) (args : List Expr)
  | construct (callee : Expr) (args : List Expr)
  | superCall (args : List Expr)
  | superMember (key : Expr)
  | member (object : Expr) (name : Units)
  | index (object key : Expr)
  | hiddenMember (object : Expr) (name : Units)
  /-- A private name where a class member is named. -/
  | hiddenName (name : Units)
  /-- An access whose result is `undefined` when an `optional` part inside finds nothing. -/
  | chain (e : Expr)
  | optional (e : Expr)
  | importCall (e : Expr)
  | yield (e : Expr)
  | yieldAll (e : Expr)
  | await (e : Expr)

/-- A member of an object literal; functions are values here. -/
inductive Member where
  | mk (kind : MemberKind) (key value : Expr)

/-- Where a value is stored: a name, a place, or the parts of a structure. The last four forms occur
only inside a structure. -/
inductive Pattern where
  | name (text : Units)
  | place (e : Expr)
  | array (elements : List Pattern)
  | object (properties : List Pattern)
  | hole
  | rest (target : Pattern)
  | withDefault (target : Pattern) (value : Expr)
  | property (key : Expr) (target : Pattern)

end

/-- A `for` head without `in` or `of`. -/
inductive ForStart where
  | none
  | expr (e : Expr)
  | vars (declarator : Declarator) (names : List LexicalName) (ds : List (Pattern × Option Expr))

/-- The left side of a `for` head with `in` or `of`. -/
structure ForTarget where
  declarator : Option Declarator
  names : List LexicalName
  target : Pattern

/-- The names a block declares: `let`, `const` and class names, and the functions, by table index,
that are ready when the block is entered. -/
structure Declared where
  names : List LexicalName
  functions : List Nat

inductive Stmt where
  | expr (e : Expr)
  | vars (declarator : Declarator) (ds : List (Pattern × Option Expr))
  | block (declared : Declared) (body : List Stmt)
  | ifElse (test : Expr) (yes no : Stmt)
  | whileLoop (test : Expr) (body : Stmt)
  | doWhile (body : Stmt) (test : Expr)
  | forLoop (start : ForStart) (test step : Option Expr) (body : Stmt)
  | forIn (target : ForTarget) (object : Expr) (body : Stmt)
  | forOf (target : ForTarget) (iterable : Expr) (body : Stmt)
  /-- The body holds the statements of all cases, each case led by its mark. -/
  | switchOn (value : Expr) (declared : Declared) (body : List Stmt)
  | caseMark (test : Option Expr)
  | returnValue (e : Expr)
  | breakTo (label : Option Units)
  | continueTo (label : Option Units)
  | throwValue (e : Expr)
  | tryCatch (body handler : Stmt) (param : Option Pattern) (names : List LexicalName)
      (hasHandler : Bool)
  | tryFinally (body last : Stmt)
  | labelled (label : Units) (body : Stmt)
  | classDecl (name : Units) (index : Nat)
  /-- A function declared in a block of code that is not strict also reaches the whole body. -/
  | functionDecl (name : Units)
  | withObject (e : Expr) (body : Stmt)
  | empty

instance : Inhabited Expr := ⟨.null⟩
instance : Inhabited Stmt := ⟨.empty⟩

/-- A function of the table. `ownName` tells whether its name is visible in its own body, `vars` are
the names that belong to the whole body. -/
structure FunctionNode where
  name : Units
  kind : FunctionKind
  isAsync : Bool
  isGenerator : Bool
  strict : Bool
  arity : Nat
  simpleParams : Bool
  ownName : Bool
  usesArguments : Bool
  params : List Pattern
  /-- The names that the parameters bind. -/
  paramNames : List Units
  vars : List Units
  declared : Declared
  body : List Stmt
  source : Units

/-- A member of a class; methods, accessors and initial values are functions of the table. -/
structure ClassMember where
  isStatic : Bool
  kind : MemberKind
  key : Expr
  function : Option Nat

/-- A class of the table. -/
structure ClassNode where
  name : Units
  parent : Option Expr
  constructor : Option Nat
  members : List ClassMember
  source : Units

/-- The table that the functions and classes of all programs share. -/
structure CodeTable where
  functions : Array FunctionNode := #[]
  classes : Array ClassNode := #[]
  /-- How many tagged templates were read; each is a place of its own. -/
  sites : Nat := 0

/-- A whole script: the names that belong to all of it, and its body. -/
structure Program where
  strict : Bool
  vars : List Units
  declared : Declared
  body : List Stmt

end SnippetService.Script
