import ModulatorHealth.Device.Envelope
import ModulatorHealth.Http.Message

/-! The device behind its web API. Each call is one request; whatever is no answer of the device
makes it unreachable. -/
namespace ModulatorHealth.Http

/-- Carries requests to the device. -/
abbrev Transport (σ : Type) : Type := Request → σ → Exchange × σ

def payload : Exchange → Reply Json
  | .failed detail => .error (.unreachable ("error sending request: " ++ detail))
  | .answered response =>
    match response.body with
    | none => .error (.unreachable "failed to read response body: it ended too early")
    | some bytes =>
      Envelope.decode response.status ((Charset.ofContentType response.contentType).text bytes)

def typed {α : Type} (what : String) (read : Json.Tree → Option α) (data : Json) : Reply α :=
  match read (.ofJson data) with
  | some result => .ok result
  | none => .error (.unreachable ("malformed " ++ what ++ " payload: unexpected shape"))

def result : (call : Call) → Json → Reply call.Result
  | .read _, data => .ok (ParamValue.ofJson data)
  | .write _ _, _ => .ok ()
  | .paramTable, data => typed "rc_parameters" ParamTable.read? data
  | .dpdResults, data => typed "dpd_results" Predistortion.Results.read? data
  | .dpdCommand _, _ => .ok ()

def interpret (call : Call) (exchange : Exchange) : Reply call.Result :=
  (payload exchange).bind (result call)

def unusableAddress : CallError := .unreachable "builder error: no http address"

def client {σ : Type} (transport : Transport σ) (base : String) : Client σ := fun call device =>
  match call.request? base with
  | none => (.error unusableAddress, device)
  | some request =>
    let (exchange, device) := transport request device
    (interpret call exchange, device)

end ModulatorHealth.Http
