import ModulatorHealth.Failure

/-! A session with one device: its base URL and the settings of its checks. A URL given on the
command line takes the place of the configured one. -/
namespace ModulatorHealth

structure Session where
  /-- The base URL, without slashes at its end. -/
  device : String
  requestTimeoutSecs : Option UInt64
  checks : CheckConfig
deriving DecidableEq

namespace Session

def withoutTrailingSlashes (url : String) : String :=
  String.ofList ((url.toList.reverse.dropWhile (· == '/')).reverse)

def ofConfig (c : HealthConfig) : Session where
  device := withoutTrailingSlashes c.device.baseUrl
  requestTimeoutSecs := c.device.requestTimeoutSecs
  checks := c.checks

/-- The configuration with another URL, which must make sense too. -/
def override (c : HealthConfig) : Option String → Except Failure HealthConfig
  | none => .ok c
  | some url =>
    let c := { c with device := { c.device with baseUrl := url } }
    match c.validate with
    | .ok _ => .ok c
    | .error setting =>
      .error ((Failure.of (.config (.invalid setting.reason))).wrap "Invalid --url")

def start (loaded : Except ConfigError HealthConfig) (url : Option String) :
    Except Failure Session :=
  match loaded with
  | .error e => .error ((Failure.of (.config e)).wrap "Failed to load configuration")
  | .ok c => (override c url).map ofConfig

end Session
end ModulatorHealth
