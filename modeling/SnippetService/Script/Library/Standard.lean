import SnippetService.Script.Library.CollectionMethods
import SnippetService.Script.Library.GlobalNames
import SnippetService.Script.Library.JsonMethods
import SnippetService.Script.Library.MathMethods
import SnippetService.Script.Library.PromiseMethods
import SnippetService.Script.Evaluate.Program
/-!
The whole library, and the store in which a script starts.
-/
namespace SnippetService.Script.Library

def standardFunctions : List StandardFunction :=
  [GlobalNames.evalFunction, FunctionMethods.thrower, ArrayMethods.valuesFunction,
    ReflectMethods.revokeFunction] ++ PromiseMethods.functions

def standardObjects : List StandardObject :=
  [ObjectMethods.prototype, FunctionMethods.prototype, GlobalNames.standardObject,
    ArrayMethods.prototype, ArrayMethods.iteratorPrototype, iteratorPrototype,
    BooleanMethods.prototype, NumberMethods.prototype, StringMethods.prototype,
    StringMethods.iteratorPrototype, SymbolMethods.prototype, BigintMethods.prototype,
    MathMethods.standardObject, JsonMethods.standardObject, ReflectMethods.standardObject,
    CollectionMethods.mapIteratorPrototype, CollectionMethods.setIteratorPrototype,
    PromiseMethods.prototype] ++
    ErrorMethods.classes.map ErrorMethods.prototype ++
    CollectionMethods.forms.map CollectionMethods.prototype

def standardClasses : List StandardClass :=
  [ObjectMethods.standardClass, FunctionMethods.standardClass, ArrayMethods.standardClass,
    BooleanMethods.standardClass, NumberMethods.standardClass, StringMethods.standardClass,
    SymbolMethods.standardClass, BigintMethods.standardClass, PromiseMethods.standardClass,
    ReflectMethods.proxyClass] ++
    ErrorMethods.classes.map ErrorMethods.standardClass ++
    CollectionMethods.forms.map CollectionMethods.standardClass

/-- The number of places that are taken by standard objects from the start. -/
def placeCount : Nat := Intrinsic.promiseReject.ref + 1

def build : Build Unit := do
  standardFunctions.forM Build.standardFunction
  standardObjects.forM Build.standardObject
  standardClasses.forM Build.standardClass

/-- The store and the functions of the library. -/
def built : Building :=
  let empty : Obj := { proto := some Intrinsic.objectPrototype.ref }
  (build.run { objects := Array.replicate placeCount empty }).2

/-- The store of a new context. -/
def freshRealm : Realm where
  objects := built.objects
  scopes := #[⟨.global, #[], 0⟩]
  activations := #[
    { this := some Intrinsic.global.value, function := .undefined, newTarget := .undefined
      home := none }]
  symbols := (WellKnown.all.map fun w => some ("Symbol." ++ w.name : Units)).toArray

/-- How deep code and calls may nest. -/
def depthLimit : Nat := 3000

/-- The machine with the whole library. -/
def machine : Machine := Machine.ofDepth built.natives depthLimit

end SnippetService.Script.Library
