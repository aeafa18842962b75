import ModulatorHealth.Device.Call

/-! The envelope in which the device wraps its answers: a status, data, and a reason for failures.
A body that is no envelope is the fault of the transport if the HTTP status reports success. -/
namespace ModulatorHealth

structure Envelope where
  status : String
  data : Option Json
  reason : Option String

namespace Envelope

def read? (tree : Json.Tree) : Option Envelope := do
  let [status, data, reason] ← tree.fields? ["status", "data", "reason"] | none
  let status ← Field.required Json.Tree.text? status
  let data ← Field.optional (Json.Tree.value? 1) data
  let reason ← Field.optional Json.Tree.text? reason
  some ⟨status, data, reason⟩

def parse? (body : String) : Option Envelope := (Json.Tree.parse? body).bind read?

def dataReason (e : Envelope) (httpStatus : Nat) : String :=
  match e.data with
  | none | some .null =>
    "Device reported status '" ++ e.status ++ "' (HTTP " ++ toString httpStatus ++ ")"
  | some (.string text) => if text = "" then Json.render (.string text) else text
  | some other => other.render

/-- The reason of a failure: its reason text unless that is empty, else its data. -/
def failureReason (e : Envelope) (httpStatus : Nat) : String :=
  match e.reason with
  | some reason => if reason = "" then e.dataReason httpStatus else reason
  | none => e.dataReason httpStatus

/-- Longer bodies are quoted up to this many characters. -/
def excerptLength : Nat := 200

def excerpt (text : List Char) : String :=
  if text.length ≤ excerptLength then String.ofList text
  else String.ofList (text.take excerptLength ++ "...".toList)

def isSuccess (httpStatus : Nat) : Bool := 200 ≤ httpStatus && httpStatus < 300

def decode (httpStatus : Nat) (body : String) : Reply Json :=
  match parse? body with
  | some e =>
    if e.status = "ok" ∧ isSuccess httpStatus then .ok (e.data.getD .null)
    else .error (.device (e.failureReason httpStatus))
  | none =>
    if isSuccess httpStatus then .error (.unreachable "malformed response: no envelope")
    else
      let text := Text.trim body.toList
      if text.isEmpty then .error (.device ("HTTP " ++ toString httpStatus))
      else .error (.device (excerpt text))

end Envelope
end ModulatorHealth
