import ModulatorHealth.Json.Reader

/-! The probes of a health check. -/
namespace ModulatorHealth

inductive ProbeId where
  | rcReachable
  | modulating
  | gpsdoQuality
  | underruns
  | latePackets
  | sampleRate
  | dpdEngine
deriving DecidableEq

namespace ProbeId

def order : List ProbeId :=
  [.rcReachable, .modulating, .gpsdoQuality, .underruns, .latePackets, .sampleRate, .dpdEngine]

def name : ProbeId → String
  | .rcReachable => "rc_reachable"
  | .modulating => "modulating"
  | .gpsdoQuality => "gpsdo_quality"
  | .underruns => "underruns"
  | .latePackets => "late_packets"
  | .sampleRate => "sample_rate"
  | .dpdEngine => "dpd_engine"

def description : ProbeId → String
  | .rcReachable => "Remote control reachable"
  | .modulating => "Modulator producing frames"
  | .gpsdoQuality => "GPSDO satellite lock"
  | .underruns => "No underruns"
  | .latePackets => "No late packets"
  | .sampleRate => "Sample rate is 8192 ksps"
  | .dpdEngine => "Predistortion engine running"

def ofName? (name : String) : Option ProbeId := order.find? fun id => id.name = name

def toJson (id : ProbeId) : Json := .string id.name

def read? (tree : Json.Tree) : Option ProbeId := tree.word?.bind ofName?

end ProbeId
end ModulatorHealth
