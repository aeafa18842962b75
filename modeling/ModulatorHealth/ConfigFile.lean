import ModulatorHealth.Config
import ModulatorHealth.Log
import ModulatorHealth.Toml.Parser

/-! The configuration file: which one counts, and the configuration that it holds. A file that
nobody asked for by name may be missing. -/
namespace ModulatorHealth

inductive ConfigError where
  | unreadable (path reason : String)
  | malformed (path : String)
  | invalid (reason : String)
deriving DecidableEq

namespace ConfigError

def malformedDetail : String := "not a configuration in TOML"

def source? : ConfigError → Option String
  | .unreadable _ reason => some reason
  | .malformed _ => some malformedDetail
  | .invalid _ => none

def message : ConfigError → String
  | .unreadable path reason => "Failed to read config " ++ path ++ ": " ++ reason
  | .malformed path => "Failed to parse config " ++ path ++ ": " ++ malformedDetail
  | .invalid reason => "Invalid config: " ++ reason

end ConfigError

namespace ConfigFile

inductive Content where
  | absent
  | refused (reason : String)
  | bytes (content : ByteArray)

abbrev Files : Type := String → Content

def systemPath : String := "/etc/odr/health.toml"

def environmentVariable : String := "ODR_HEALTH_CONFIG"

/-- The file that counts: the explicit one, else that of the environment, else the system's. -/
def path (explicit environment : Option String) : String :=
  (explicit <|> environment).getD systemPath

def ofText (path text : String) : Except ConfigError HealthConfig :=
  match (Toml.parse? text).bind HealthConfig.read? with
  | none => .error (.malformed path)
  | some config =>
    match config.validate with
    | .ok _ => .ok config
    | .error setting => .error (.invalid setting.reason)

def ofInline (text : String) : Except ConfigError HealthConfig := ofText "<inline>" text

def ofBytes (path : String) (content : ByteArray) : Except ConfigError HealthConfig :=
  match String.fromUTF8? content with
  | some text => ofText path text
  | none => .error (.unreadable path "stream did not contain valid UTF-8")

def load (files : Files) (explicit environment : Option String) :
    Except ConfigError HealthConfig × List Log.Event :=
  let path := path explicit environment
  match files path with
  | .absent =>
    if explicit.isSome then (.error (.unreadable path "file not found"), [])
    else (.ok .standard, [⟨.warn, [], "Config " ++ path ++ " not found, using defaults"⟩])
  | .refused reason => (.error (.unreadable path reason), [])
  | .bytes content =>
    match ofBytes path content with
    | .ok config => (.ok config, [⟨.info, [], "Loaded config from " ++ path⟩])
    | .error e => (.error e, [])

end ConfigFile
end ModulatorHealth
