import SnippetService.Text.Units
/-!
Why a text is not a script. Each cause is a constructor; `message` is the one place that words them.
-/
namespace SnippetService.Script

inductive ReadFault where
  -- Words and marks
  | unexpectedCharacter
  | unexpectedEndOfComment
  | unexpectedEndOfString
  | malformedEscape
  | octalEscape
  | octalNumber
  | invalidNumber
  | invalidHiddenName
  | unexpectedEndOfRegexp
  | lineInRegexp
  | invalidRegexp (detail : String)
  -- Expressions
  | unexpectedToken (text : Units)
  | expecting (mark : String)
  | expectingFieldName
  | expectingTarget
  | newTargetOutside
  | superCallOutside
  | superOutside
  | invalidSuper
  | metaExpected
  | metaOutside
  | invalidImport
  | templateInChain
  | templateEnd
  | hiddenAfterSuper
  | strictTarget
  | invalidForTarget
  | invalidUpdateOperand
  | invalidDestructuring
  | invalidAssignment
  | deleteName
  | deleteHidden
  | powAfterUnary
  | mixedCoalesce
  | argumentsInField
  | unexpectedYield
  | yieldInDefault
  | unexpectedAwait
  | awaitInDefault
  | invalidPropertyName
  | duplicateProto
  | tooManyArguments
  -- Patterns
  | restMustBeLastProperty
  | restMustBeLast
  | restWithDefault
  | missingPattern
  | invalidPattern
  | complicatedPattern
  | duplicateParameter
  -- Declarations
  | reservedName (name : Units)
  | variableNameExpected
  | letAsName
  | missingInitializer
  | strictVariable
  | invalidLexicalName
  | yieldAsName
  | lexicalRedefinition
  | parameterRedefinition
  | variableRedefinition
  | globalRedefinition
  -- Statements
  | returnOutside
  | breakOutside
  | continueOutside
  | labelNotFound
  | duplicateLabel
  | lineAfterThrow
  | lexicalAlone
  | functionAlone
  | classAlone
  | invalidSwitch
  | duplicateDefault
  | identifierExpected
  | expectingCatch
  | strictWith
  | unsupportedKeyword (word : Units)
  | forAwaitOutside
  | forAwaitIn
  | forHeadInitializer (word : String)
  | forHeadExpected
  -- Functions and classes
  | functionNameExpected
  | missingParameter
  | accessorArity
  | strictDirective
  | strictFunctionName
  | strictArgumentName
  | duplicateArgument
  | classNameExpected
  | invalidMethodName
  | invalidFieldName
  | duplicateConstructor
  | duplicateHidden
  | undefinedHidden (name : Units)
  | tooDeep

namespace ReadFault

/-- The text of a fault as the thrown error carries it. -/
def message : ReadFault → Units
  | unexpectedCharacter => "unexpected character"
  | unexpectedEndOfComment => "unexpected end of comment"
  | unexpectedEndOfString => "unexpected end of string"
  | malformedEscape => "malformed escape sequence in string literal"
  | octalEscape => "octal escape sequences are not allowed in strict mode"
  | octalNumber => "octal literals are deprecated in strict mode"
  | invalidNumber => "invalid number literal"
  | invalidHiddenName => "invalid first character of private name"
  | unexpectedEndOfRegexp => "unexpected end of regexp"
  | lineInRegexp => "unexpected line terminator in regexp"
  | invalidRegexp detail => detail
  | unexpectedToken text => "unexpected token in expression: '" ++ text ++ "'"
  | expecting mark => "expecting '" ++ (mark : Units) ++ "'"
  | expectingFieldName => "expecting field name"
  | expectingTarget => "expecting target"
  | newTargetOutside => "new.target only allowed within functions"
  | superCallOutside => "super() is only valid in a derived class constructor"
  | superOutside => "'super' is only valid in a method"
  | invalidSuper => "invalid use of 'super'"
  | metaExpected => "meta expected"
  | metaOutside => "import.meta only valid in module code"
  | invalidImport => "invalid use of 'import()'"
  | templateEnd => "expected '\x7d' after template expression"
  | templateInChain => "template literal cannot appear in an optional chain"
  | hiddenAfterSuper => "private class field forbidden after super"
  | strictTarget => "invalid lvalue in strict mode"
  | invalidForTarget => "invalid for in/of left hand-side"
  | invalidUpdateOperand => "invalid increment/decrement operand"
  | invalidDestructuring => "invalid destructuring target"
  | invalidAssignment => "invalid assignment left-hand side"
  | deleteName => "cannot delete a direct reference in strict mode"
  | deleteHidden => "cannot delete a private class field"
  | powAfterUnary =>
    "unparenthesized unary expression can't appear on the left-hand side of '**'"
  | mixedCoalesce => "cannot mix ?? with && or ||"
  | argumentsInField => "'arguments' identifier is not allowed in class field initializer"
  | unexpectedYield => "unexpected 'yield' keyword"
  | yieldInDefault => "yield in default expression"
  | unexpectedAwait => "unexpected 'await' keyword"
  | awaitInDefault => "await in default expression"
  | invalidPropertyName => "invalid property name"
  | duplicateProto => "duplicate __proto__ property name"
  | tooManyArguments => "Too many call arguments"
  | restMustBeLastProperty => "assignment rest property must be last"
  | restMustBeLast => "rest element must be the last one"
  | restWithDefault => "rest element cannot have a default value"
  | missingPattern => "missing binding pattern..."
  | invalidPattern => "invalid assignment syntax"
  | complicatedPattern => "too complicated destructuring expression"
  | duplicateParameter => "duplicate parameter names not allowed in this context"
  | reservedName name => "'" ++ name ++ "' is a reserved identifier"
  | variableNameExpected => "variable name expected"
  | letAsName => "'let' is not a valid lexical identifier"
  | missingInitializer => "missing initializer for const variable"
  | strictVariable => "invalid variable name in strict mode"
  | invalidLexicalName => "invalid lexical variable name"
  | yieldAsName => "yield is a reserved identifier"
  | lexicalRedefinition => "invalid redefinition of lexical identifier"
  | parameterRedefinition => "invalid redefinition of parameter name"
  | variableRedefinition => "invalid redefinition of a variable"
  | globalRedefinition => "invalid redefinition of global identifier"
  | returnOutside => "return not in a function"
  | breakOutside => "break must be inside loop or switch"
  | continueOutside => "continue must be inside loop"
  | labelNotFound => "break/continue label not found"
  | duplicateLabel => "duplicate label name"
  | lineAfterThrow => "line terminator not allowed after throw"
  | lexicalAlone => "lexical declarations can't appear in single-statement context"
  | functionAlone => "function declarations can't appear in single-statement context"
  | classAlone => "class declarations can't appear in single-statement context"
  | invalidSwitch => "invalid switch statement"
  | duplicateDefault => "duplicate default"
  | identifierExpected => "identifier expected"
  | expectingCatch => "expecting catch or finally"
  | strictWith => "invalid keyword: with"
  | unsupportedKeyword word => "unsupported keyword: " ++ word
  | forAwaitOutside => "for await is only valid in asynchronous functions"
  | forAwaitIn => "'for await' loop should be used with 'of'"
  | forHeadInitializer word =>
    "a declaration in the head of a for-" ++ (word : Units) ++ " loop can't have an initializer"
  | forHeadExpected => "expected 'of' or 'in' in for control expression"
  | functionNameExpected => "function name expected"
  | missingParameter => "missing formal parameter"
  | accessorArity => "invalid number of arguments for getter or setter"
  | strictDirective =>
    "\"use strict\" not allowed in function with default or destructuring parameter"
  | strictFunctionName => "invalid function name in strict code"
  | strictArgumentName => "invalid argument name in strict code"
  | duplicateArgument => "duplicate argument names not allowed in this context"
  | classNameExpected => "class statement requires a name"
  | invalidMethodName => "invalid method name"
  | invalidFieldName => "invalid field name"
  | duplicateConstructor => "property constructor appears more than once"
  | duplicateHidden => "private class field is already defined"
  | undefinedHidden name => "undefined private field '" ++ name ++ "'"
  | tooDeep => "stack overflow"

end ReadFault

end SnippetService.Script
