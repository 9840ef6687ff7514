import SnippetService.Execution.Failure
import SnippetService.Text.Base64
/-!
What is submitted for running: bytes of a module, or text that is told what to do instead.
-/
namespace SnippetService.Wasm

abbrev Bytes := List UInt8

def watError : String := "WAT format detected. Please compile to WASM binary first."

def watHint : String := "Use 'wat2wasm' from WABT to compile WAT to WASM."

def textError : String := "For JavaScript + WASM, use the JavaScript executor."

def textHint : String := "Use /v1/execute/javascript for JavaScript code with WebAssembly."

def base64Error : String := "precompiledBytes is not valid base64."

def base64Hint : String := "Send the compiled module encoded with standard base64."

def magicError : String := "Input is not a WebAssembly binary (missing \\0asm header)."

def magicHint : String := "Compile the module to the binary format before submitting it."

/-- The mark at the start of every binary module. -/
def magic : Bytes := [0, 0x61, 0x73, 0x6d]

/-- Whether a text is a module in the text format. -/
def isWatText (code : Text) : Bool := List.isPrefixOf ("(module" : Text) (stripText code)

/-- The bytes of a submission in base64. -/
def decodeSubmission (encoded : Text) : Except Failure Bytes :=
  match Base64.decode encoded with
  | some bytes => .ok bytes
  | none => .error (.classified .load base64Error (some base64Hint))

/-- The bytes to run. Text is never compiled, and bytes without the mark are refused. -/
def classify (code : Option Text) (bytes : Option Bytes) : Except Failure Bytes :=
  match bytes with
  | none | some [] =>
    if isWatText (code.getD "") then .error (.classified .load watError (some watHint))
    else .error (.classified .load textError (some textHint))
  | some bytes =>
    if magic.isPrefixOf bytes then .ok bytes
    else .error (.classified .load magicError (some magicHint))

end SnippetService.Wasm
