import ModulatorHealth.Device.Call
import ModulatorHealth.Http.Charset
import ModulatorHealth.Http.Url

/-! Requests and responses of the device's web API. -/
namespace ModulatorHealth

namespace Http

inductive Method where
  | get
  | post
deriving DecidableEq

def Method.name : Method → String
  | .get => "GET"
  | .post => "POST"

structure Request where
  method : Method
  url : Url
  body : Option String
deriving DecidableEq

structure Response where
  status : Nat
  contentType : Option String
  /-- None if the body was announced and never completed. -/
  body : Option (List UInt8)

inductive Exchange where
  | failed (detail : String)
  | answered (response : Response)
deriving Inhabited

end Http

namespace Call

open Http

def path : Call → String
  | .read _ | .write _ _ => "/api/parameter"
  | .paramTable => "/api/rc_parameters"
  | .dpdResults => "/api/dpd_results"
  | .dpdCommand command => command.path

def address (base : String) (call : Call) : String := base ++ call.path

def query : Call → List (String × String)
  | .read p => [("controllable", p.controllable), ("param", p.param)]
  | .write _ _ | .paramTable | .dpdResults | .dpdCommand _ => []

def body? : Call → Option Json
  | .write p value =>
    some (.object [
      ("controllable", .string p.controllable), ("param", .string p.param),
      ("value", value.toJson)])
  | .dpdCommand command => some command.body
  | .read _ | .paramTable | .dpdResults => none

def request? (base : String) (call : Call) : Option Request :=
  (Url.parse? (call.address base)).bind fun url =>
    let url := url.withQuery call.query
    if Url.maxLength < url.text.utf8ByteSize then none
    else
      some {
        method := if call.body?.isSome then .post else .get
        url
        body := call.body?.map Json.render }

end Call
end ModulatorHealth
