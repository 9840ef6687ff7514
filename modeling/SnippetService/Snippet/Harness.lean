import SnippetService.Text.Point
import SnippetService.Text.Units
/-!
The texts that surround a snippet. One installs a console that collects lines; one takes the snippet as
a string literal, runs it in strict mode, and gives its outcome as JSON text; one reads the collected
lines when a snippet had to be stopped.
-/
namespace SnippetService.Snippet

/-- The global name of the function that hands out the collected lines. -/
def readerName : String := "__polyexec_console"

/-- Installs the console. The function that hands out the lines cannot be replaced. -/
def consoleText : String := "
(function () \x7b
    var logs = [];
    var errors = [];
    var line = function (args) \x7b
        return Array.prototype.map.call(args, String).join(\" \");
    \x7d;
    globalThis.console = \x7b
        log: function () \x7b
            logs.push(line(arguments));
        \x7d,
        error: function () \x7b
            errors.push(line(arguments));
        \x7d
    \x7d;
    Object.defineProperty(globalThis, \"__polyexec_console\", \x7b
        value: function () \x7b
            return \x7blogs: logs.slice(), errors: errors.slice()\x7d;
        \x7d
    \x7d);
\x7d)();
"

/-- What stands before the snippet's literal. -/
def harnessStart : String := "
(function (source, readConsole, stringify) \x7b
    \"use strict\";
    var describe = function (e) \x7b
        if (e === undefined || e === null) \x7b
            return null;
        \x7d
        if (e.message) \x7b
            return String(e.message);
        \x7d
        return String(e) || null;
    \x7d;
    var render = function (value) \x7b
        if (value === undefined || value === null) \x7b
            return null;
        \x7d
        var rendered;
        if (typeof value === \"object\") \x7b
            try \x7b
                rendered = stringify(value, null, 2);
            \x7d catch (e) \x7b
                rendered = undefined;
            \x7d
        \x7d
        if (rendered === undefined || rendered === null) \x7b
            try \x7b
                rendered = String(value);
            \x7d catch (e) \x7b
                rendered = Object.prototype.toString.call(value);
            \x7d
        \x7d
        return rendered;
    \x7d;
    var outcome;
    try \x7b
        outcome = \x7bok: true, value: (0, eval)('\"use strict\"; void 0;\\n' + source)\x7d;
    \x7d catch (e) \x7b
        outcome = \x7bok: false, error: describe(e)\x7d;
    \x7d
    if (outcome.ok) \x7b
        outcome.value = render(outcome.value);
    \x7d
    var captured = readConsole();
    outcome.logs = captured.logs;
    outcome.errors = captured.errors;
    return stringify(outcome);
\x7d)("

/-- What stands behind the snippet's literal. -/
def harnessEnd : String := ", globalThis.__polyexec_console, JSON.stringify)
"

/-- A hexadecimal digit. -/
def hexDigit (n : Nat) : Char := Char.ofNat (if n < 10 then 48 + n else 87 + n)

/-- A unit by its number. -/
def unitEscape (u : Nat) : List Char :=
  ['\\', 'u', hexDigit (u / 4096 % 16), hexDigit (u / 256 % 16), hexDigit (u / 16 % 16),
    hexDigit (u % 16)]

/-- A character inside the literal: printable ASCII as it is, but for the quote and the escape mark;
all else escaped, the common line controls briefly and the rest unit by unit. -/
def literalChar (c : Char) : List Char :=
  match c with
  | '"' => ['\\', '"']
  | '\\' => ['\\', '\\']
  | '\n' => ['\\', 'n']
  | '\r' => ['\\', 'r']
  | '\t' => ['\\', 't']
  | '\x0c' => ['\\', 'f']
  | '\x08' => ['\\', 'b']
  | c =>
    if 32 ≤ c.toNat && c.toNat < 127 then [c]
    else (Units.ofChar c).flatMap fun u => unitEscape u.toNat

/-- A code point inside the literal. -/
def literalPoint : Point → List Char
  | .char c => literalChar c
  | p => unitEscape p.toNat

/-- A text as a string literal. -/
def literal (code : Text) : String :=
  String.ofList (['"'] ++ code.flatMap literalPoint ++ ['"'])

/-- The text that makes a snippet strict. -/
def prologue : String := "\"use strict\"; void 0;\n"

/-- The text that runs a snippet. -/
def harnessText (code : Text) : String := harnessStart ++ literal code ++ harnessEnd

/-- The text that reads the console after an abort. -/
def readerText : String := "JSON.stringify(" ++ readerName ++ "())"

end SnippetService.Snippet
