import ModulatorHealth.Json.Basic
import ModulatorHealth.Json.Reader
import ModulatorHealth.Text.Blank

/-! Settings of the health check: where the device is, and the thresholds and timings of the
probes. -/
namespace ModulatorHealth

structure DeviceConfig where
  baseUrl : String
  /-- Without a timeout a request that hangs stalls its probe. -/
  requestTimeoutSecs : Option UInt64
deriving DecidableEq

structure CheckConfig where
  frameRecheckDelayMs : UInt64
  /-- Samples of an error counter after the baseline. -/
  counterRounds : UInt32
  counterIntervalMs : UInt64
  /-- More satellites than this must be in use. -/
  minGpsdoSatellites : Int64
  expectedSampleRate : Int64
deriving DecidableEq

structure HealthConfig where
  device : DeviceConfig
  checks : CheckConfig
deriving DecidableEq

namespace DeviceConfig

def standard : DeviceConfig := ⟨"http://127.0.0.1:8099", none⟩

def toJson (c : DeviceConfig) : Json :=
  .object [
    ("base_url", .string c.baseUrl),
    ("request_timeout_secs",
      (c.requestTimeoutSecs.map fun secs => Json.number (.ofUInt64 secs)).getD .null)]

def read? {τ : Type} [Document τ] (part : τ) : Option DeviceConfig := do
  let [baseUrl, timeout] ← Document.fields? ["base_url", "request_timeout_secs"] part | none
  let baseUrl ← Field.orElse standard.baseUrl Document.text? baseUrl
  let timeout ← Field.optional Document.uint64? timeout
  some ⟨baseUrl, timeout⟩

end DeviceConfig

namespace CheckConfig

def standard : CheckConfig := ⟨200, 3, 2000, 3, 8192000⟩

def toJson (c : CheckConfig) : Json :=
  .object [
    ("frame_recheck_delay_ms", .number (.ofUInt64 c.frameRecheckDelayMs)),
    ("counter_rounds", .number (.ofUInt32 c.counterRounds)),
    ("counter_interval_ms", .number (.ofUInt64 c.counterIntervalMs)),
    ("min_gpsdo_satellites", .number (.ofInt64 c.minGpsdoSatellites)),
    ("expected_sample_rate", .number (.ofInt64 c.expectedSampleRate))]

def fieldNames : List String :=
  ["frame_recheck_delay_ms", "counter_rounds", "counter_interval_ms", "min_gpsdo_satellites",
    "expected_sample_rate"]

def read? {τ : Type} [Document τ] (part : τ) : Option CheckConfig := do
  let [delay, rounds, interval, satellites, rate] ← Document.fields? fieldNames part | none
  let delay ← Field.orElse standard.frameRecheckDelayMs Document.uint64? delay
  let rounds ← Field.orElse standard.counterRounds Document.uint32? rounds
  let interval ← Field.orElse standard.counterIntervalMs Document.uint64? interval
  let satellites ← Field.orElse standard.minGpsdoSatellites Document.int64? satellites
  let rate ← Field.orElse standard.expectedSampleRate Document.int64? rate
  some ⟨delay, rounds, interval, satellites, rate⟩

end CheckConfig

namespace HealthConfig

def standard : HealthConfig := ⟨.standard, .standard⟩

def toJson (c : HealthConfig) : Json :=
  .object [("device", c.device.toJson), ("checks", c.checks.toJson)]

def read? {τ : Type} [Document τ] (part : τ) : Option HealthConfig := do
  let [device, checks] ← Document.fields? ["device", "checks"] part | none
  let device ← Field.orElse .standard DeviceConfig.read? device
  let checks ← Field.orElse .standard CheckConfig.read? checks
  some ⟨device, checks⟩

inductive Invalid where
  | emptyBaseUrl
  | noRounds
  | zeroTimeout
deriving DecidableEq

def Invalid.reason : Invalid → String
  | .emptyBaseUrl => "device.base_url must not be empty"
  | .noRounds => "checks.counter_rounds must be at least 1"
  | .zeroTimeout => "device.request_timeout_secs must be positive when set"

def validate (c : HealthConfig) : Except Invalid Unit :=
  if Text.isBlankText c.device.baseUrl then .error .emptyBaseUrl
  else if c.checks.counterRounds = 0 then .error .noRounds
  else if c.device.requestTimeoutSecs = some 0 then .error .zeroTimeout
  else .ok ()

end HealthConfig
end ModulatorHealth
