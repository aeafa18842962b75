import ModulatorHealth.Device.Call
import ModulatorHealth.Outcome

/-! Verdicts on sampled values, apart from any device: why a probe fails, and what it says when it
passes. -/
namespace ModulatorHealth.Check

inductive Failure where
  | unreachable (detail : String)
  | device (reason : String)
  | threshold (observed reason : String)
deriving DecidableEq

namespace Failure

def ofCallError : CallError → Failure
  | .unreachable detail => .unreachable detail
  | .device reason => .device reason

def message : Failure → String
  | .unreachable detail => "Device unreachable: " ++ detail
  | .device reason => reason
  | .threshold _ reason => reason

def kind : Failure → String
  | .unreachable _ => "unreachable"
  | .device _ => "device_error"
  | .threshold _ _ => "threshold"

end Failure

/-- A comment, if there is anything to say, or the reason of the failure. -/
abbrev Verdict : Type := Except Failure (Option String)

def Verdict.outcome : Verdict → Outcome
  | .ok comment => .ok comment
  | .error failure => .fail failure.message

def numeric (what : String) (value : ParamValue) : Except Failure Int :=
  match value.asInt? with
  | some n => .ok n
  | none => .error (.threshold value.display (what ++ " is not a number: " ++ value.display))

def sampled (what : String) : Reply ParamValue → Except Failure Int
  | .ok value => numeric what value
  | .error e => .error (.ofCallError e)

def gpsdoVerdict (least : Int) (value : ParamValue) : Verdict :=
  (numeric "Number of SVs" value).bind fun n =>
    if least < n then .ok (some ("Number of SVs used: " ++ toString n))
    else .error (.threshold (toString n) ("Number of SVs (" ++ toString n ++ ") is too low"))

def sampleRateVerdict (expected : Int) (value : ParamValue) : Verdict :=
  (numeric "Samplerate" value).bind fun rate =>
    if rate = expected then .ok (some ("Samplerate: " ++ toString rate))
    else .error (.threshold (toString rate)
      ("Samplerate is not " ++ toString (Int.tdiv expected 1000) ++ "ksps: " ++ toString rate))

/-- The engine must report a state, whatever it is. -/
def dpdVerdict (results : Predistortion.Results) : Verdict :=
  match results.state with
  | some state => .ok (some ("State: " ++ state))
  | none => .error (.threshold "none" "Predistortion engine reported no state")

def frameCount : String := "Number of frames"

def firstFrames (value : ParamValue) : Except Failure Int :=
  (numeric frameCount value).bind fun frames =>
    if 0 < frames then .ok frames
    else .error (.threshold (toString frames) "number of frames is 0")

def framesVerdict (first second : Int) : Verdict :=
  if second = first then
    .error (.threshold (toString second) ("Frame counter not incrementing: " ++ toString second))
  else .ok (some ("Number of frames modulated: " ++ toString second))

end ModulatorHealth.Check
