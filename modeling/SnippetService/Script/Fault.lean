import SnippetService.Script.ReadFault
/-!
Why a running script fails by the language's own rules. Each cause is a constructor; its class and
its wording are functions of it.
-/
namespace SnippetService.Script

/-- The classes of error objects. -/
inductive ErrorClass where
  | error | evalError | rangeError | referenceError | syntaxError | typeError | uriError
  | internalError | aggregateError
  deriving DecidableEq

namespace ErrorClass

def name : ErrorClass → String
  | error => "Error"
  | evalError => "EvalError"
  | rangeError => "RangeError"
  | referenceError => "ReferenceError"
  | syntaxError => "SyntaxError"
  | typeError => "TypeError"
  | uriError => "URIError"
  | internalError => "InternalError"
  | aggregateError => "AggregateError"

end ErrorClass

inductive Fault where
  -- Names
  | notDefined (name : Units)
  | notInitialized (name : Units)
  | readOnly (name : Units)
  | thisTwice
  | deleteSuper
  -- Calls
  | notAFunction
  | notAConstructor
  | classWithoutNew
  | parentNotConstructor
  | parentPrototype
  | notAnObject
  | invalidAccess
  | constructorResult
  -- Properties
  | readOf (key : Units) (base : String)
  | writeOf (key : Units) (base : String)
  | noSetter
  | notExtensible
  | notConfigurable
  | notDeleted
  | notAnIndex
  | noProperty
  | mixedDescriptor
  | invalidGetter
  | invalidSetter
  | circularPrototype
  | notAPrototype
  | hiddenMissing (name : Units)
  | hiddenPresent (name : Units)
  | hiddenBrand
  | proxyFailed (text : String)
  | revokedProxy
  -- Conversions
  | toObject
  | toPrimitive
  | symbolToString
  | symbolToNumber
  | bigintToNumber
  | toBigint
  | bigintLiteral
  | bigintNotInteger
  | bigintNotFinite
  | bigintUnaryPlus
  | bigintUnsignedShift
  | bigintInvalid
  | bigintInJson
  | mixedWrong (wanted : String)
  -- Operators
  | invalidIn
  | invalidInstanceof
  | instanceofPrototype
  -- Iteration
  | notIterable
  | noThrowMethod
  | generatorRunning
  | notAGenerator
  -- Standard library
  | invalidArrayLength
  | emptyArray
  | notAnArray
  | lengthTooLong
  | stringTooLong
  | invalidRepeat
  | invalidRadix
  | invalidDigits
  | invalidCodePoint
  | invalidNormalization
  | regexpNotSupported
  | circularReference
  | notASymbol
  | forbiddenReceiver
  | malformedUri (text : String)
  | invalidDate
  | setterless
  | noConversion
  | badReceiver (wanted : String)
  | onlyConstructor
  | invalidRegexp (text : Units)
  | globalRequired
  | jsonText (text : Units)
  | stackOverflow
  | unreadable (fault : ReadFault)

namespace Fault

/-- The class of the error object that a fault throws. -/
def errorClass : Fault → ErrorClass
  | notDefined _ | notInitialized _ | thisTwice | deleteSuper => .referenceError
  | invalidArrayLength | invalidRepeat | invalidRadix | invalidDigits | invalidCodePoint
  | invalidNormalization | bigintNotInteger | bigintNotFinite | bigintInvalid | invalidDate =>
    .rangeError
  | bigintLiteral | invalidRegexp _ | jsonText _ | unreadable _ => .syntaxError
  | malformedUri _ => .uriError
  | stackOverflow | stringTooLong => .internalError
  | _ => .typeError

/-- The text of the error object that a fault throws. -/
def message : Fault → Units
  | notDefined name => "'" ++ name ++ "' is not defined"
  | notInitialized name => name ++ " is not initialized"
  | readOnly name => "'" ++ name ++ "' is read-only"
  | thisTwice => "'this' can be initialized only once"
  | deleteSuper => "unsupported reference to 'super'"
  | notAFunction => "not a function"
  | notAConstructor => "not a constructor"
  | classWithoutNew => "class constructors must be invoked with 'new'"
  | parentNotConstructor => "parent class must be constructor"
  | parentPrototype => "parent prototype must be an object or null"
  | notAnObject => "not an object"
  | invalidAccess => "invalid property access"
  | constructorResult => "derived class constructor must return an object or undefined"
  | readOf key base => "cannot read property '" ++ key ++ "' of " ++ (base : Units)
  | writeOf key base => "cannot set property '" ++ key ++ "' of " ++ (base : Units)
  | noSetter => "no setter for property"
  | notExtensible => "object is not extensible"
  | notConfigurable => "property is not configurable"
  | notDeleted => "could not delete property"
  | notAnIndex => "invalid array index"
  | noProperty => "value has no property"
  | mixedDescriptor => "cannot have setter/getter and value or writable"
  | invalidGetter => "invalid getter"
  | invalidSetter => "invalid setter"
  | circularPrototype => "circular prototype chain"
  | notAPrototype => "not a prototype"
  | hiddenMissing name => "private class field '" ++ name ++ "' does not exist"
  | hiddenPresent name => "private class field '" ++ name ++ "' already exists"
  | hiddenBrand => "invalid brand on object"
  | proxyFailed text => text
  | revokedProxy => "revoked proxy"
  | toObject => "cannot convert to object"
  | toPrimitive => "toPrimitive"
  | symbolToString => "cannot convert symbol to string"
  | symbolToNumber => "cannot convert symbol to number"
  | bigintToNumber => "cannot convert bigint to number"
  | toBigint => "cannot convert to BigInt"
  | bigintLiteral => "invalid bigint literal"
  | bigintNotInteger => "cannot convert to bigint: not an integer"
  | bigintNotFinite => "cannot convert NaN or Infinity to bigint"
  | bigintUnaryPlus => "bigint argument with unary +"
  | bigintUnsignedShift => "bigint operands are forbidden for >>>"
  | bigintInvalid => "invalid operation"
  | bigintInJson => "bigint are forbidden in JSON.stringify"
  | mixedWrong wanted => "not a " ++ (wanted : Units)
  | invalidIn => "invalid 'in' operand"
  | invalidInstanceof => "invalid 'instanceof' right operand"
  | instanceofPrototype => "operand 'prototype' property is not an object"
  | notIterable => "value is not iterable"
  | noThrowMethod => "iterator does not have a throw method"
  | generatorRunning => "cannot invoke a running generator"
  | notAGenerator => "not a generator"
  | invalidArrayLength => "invalid array length"
  | emptyArray => "empty array"
  | notAnArray => "not an array"
  | lengthTooLong => "Array loo long"
  | stringTooLong => "string too long"
  | invalidRepeat => "invalid repeat count"
  | invalidRadix => "radix must be between 2 and 36"
  | invalidDigits => "invalid number of digits"
  | invalidCodePoint => "invalid code point"
  | invalidNormalization => "bad normalization form"
  | regexpNotSupported => "regexp not supported"
  | circularReference => "circular reference"
  | notASymbol => "not a symbol"
  | forbiddenReceiver => "null or undefined are forbidden"
  | malformedUri text => text
  | invalidDate => "Date value is NaN"
  | setterless => "no setter for property"
  | noConversion => "cannot convert to primitive"
  | badReceiver wanted => (wanted : Units) ++ " object expected"
  | onlyConstructor => "constructor requires 'new'"
  | invalidRegexp text => text
  | globalRequired => "regexp must have the 'g' flag"
  | jsonText text => text
  | stackOverflow => "stack overflow"
  | unreadable fault => fault.message

end Fault

end SnippetService.Script
