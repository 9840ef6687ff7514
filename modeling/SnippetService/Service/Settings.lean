import SnippetService.Data.Datum
import SnippetService.Service.Family
import SnippetService.Text.Digits
/-!
The settings of the service, read from the environment. Every setting has a default; one that is there
has to be valid.
-/
namespace SnippetService

/-- The variables of the environment. -/
abbrev Environment := List (String × String)

/-- The key of the remote sandboxes; a blank one counts as none. -/
def remoteKey (env : Environment) : Option String :=
  (env.lookup "E2B_API_KEY").filter fun s => !isBlankText s

/-- The numeric settings. -/
inductive NumericSetting where
  | memory | scriptTime | wasmTime | remoteTime | port
  deriving DecidableEq

namespace NumericSetting

/-- The variable that holds a setting. -/
def variableName : NumericSetting → String
  | memory => "POLYEXEC_MAX_MEMORY_MB"
  | scriptTime => "POLYEXEC_JS_TIME_LIMIT"
  | wasmTime => "POLYEXEC_WASM_TIME_LIMIT"
  | remoteTime => "POLYEXEC_REMOTE_TIMEOUT"
  | port => "PORT"

def default : NumericSetting → Int
  | memory => 128
  | scriptTime => 30
  | wasmTime => 30
  | remoteTime => 60
  | port => 8080

end NumericSetting

/-- What can be wrong with a setting. -/
inductive SettingFault where
  | unknownLanguage (name : String)
  | unknownLevel (name : String)
  | notANumber (setting : NumericSetting) (text : String)
  | notPositive (setting : NumericSetting) (value : Int)
  deriving DecidableEq

def SettingFault.message : SettingFault → String
  | unknownLanguage name =>
    "Invalid POLYEXEC_ALLOWED_LANGS entry: " ++ name ++ ". Use any of " ++
      ", ".intercalate (Family.all.map Family.name) ++ "."
  | unknownLevel name => "Invalid POLYEXEC_LOG_LEVEL: " ++ name
  | notANumber setting text => "Invalid integer for " ++ setting.variableName ++ ": " ++ text
  | notPositive setting value =>
    setting.variableName ++ " must be positive, got " ++ toString value

structure Settings where
  /-- The secret that clients have to send; none is asked for if it is empty. -/
  apiKey : String
  /-- The families that the service offers. -/
  allowed : List Family
  /-- The memory of scripts and modules, in megabytes. -/
  maxMemory : Int
  /-- The seconds that a script may take. -/
  scriptTime : Int
  /-- The seconds that a module may take. -/
  wasmTime : Int
  /-- The seconds that a remote sandbox lives. -/
  remoteTime : Int
  /-- The least rank of the records that are logged. -/
  logRank : Int
  port : Int
  deriving DecidableEq

namespace Settings

/-- The entries of a list of languages, in lower case and without blank ones. -/
def languageNames (s : String) : List String :=
  ((splitAt ',' s.toList).filter fun part => !part.all isBlank).map fun part =>
    Casing.toLower (String.ofList (stripChars part))

/-- The families of names. -/
def families : List String → Except SettingFault (List Family)
  | [] => .ok []
  | name :: rest =>
    match Family.ofName? name with
    | some f => (families rest).map (f :: ·)
    | none => .error (.unknownLanguage name)

def readAllowed (env : Environment) : Except SettingFault (List Family) :=
  match env.lookup "POLYEXEC_ALLOWED_LANGS" with
  | none => .ok Family.all
  | some s => families (languageNames s)

/-- The names of levels and their ranks. -/
def levels : List (String × Int) :=
  [("NOTSET", 0), ("DEBUG", 10), ("INFO", 20), ("WARN", 30), ("WARNING", 30), ("ERROR", 40),
    ("CRITICAL", 50), ("FATAL", 50)]

def readLevel (env : Environment) : Except SettingFault Int :=
  let name := Casing.toUpper ((env.lookup "POLYEXEC_LOG_LEVEL").getD "INFO")
  match levels.lookup name with
  | some rank => .ok rank
  | none => .error (.unknownLevel name)

def readNumber (env : Environment) (setting : NumericSetting) : Except SettingFault Int :=
  match env.lookup setting.variableName with
  | none => .ok setting.default
  | some s =>
    match Digits.readInt? s with
    | none => .error (.notANumber setting s)
    | some n => if 0 < n then .ok n else .error (.notPositive setting n)

/-- The settings that the environment gives, or the first thing that is wrong with them. -/
def read (env : Environment) : Except SettingFault Settings := do
  let allowed ← readAllowed env
  let logRank ← readLevel env
  let maxMemory ← readNumber env .memory
  let scriptTime ← readNumber env .scriptTime
  let wasmTime ← readNumber env .wasmTime
  let remoteTime ← readNumber env .remoteTime
  let port ← readNumber env .port
  return {
    apiKey := (env.lookup "POLYEXEC_API_KEY").getD "", allowed, maxMemory, scriptTime, wasmTime
    remoteTime, logRank, port }

/-- What is told of the settings when the service starts. -/
def summary (s : Settings) : Text :=
  "Loaded config: allowed_langs=" ++
    (Datum.list (s.allowed.map fun f => .text f.name)).shown ++
    ", max_memory_mb=" ++ toString s.maxMemory ++ ", js_time_limit=" ++ toString s.scriptTime ++
    ", wasm_time_limit=" ++ toString s.wasmTime ++ ", remote_timeout=" ++ toString s.remoteTime

end Settings

/-- How the service is served on a socket. -/
structure ServeOptions where
  host : String
  port : Int
  logRank : Int
  deriving DecidableEq

/-- The service listens on all interfaces. -/
def ServeOptions.ofSettings (s : Settings) : ServeOptions := ⟨"0.0.0.0", s.port, s.logRank⟩

end SnippetService
