import ModulatorHealth.Param
import ModulatorHealth.Predistortion

/-! Calls to the device. One call is one round trip, with no retry and no cache, and either gives
the result of its kind or says why there is none. -/
namespace ModulatorHealth

inductive CallError where
  | unreachable (detail : String)
  /-- The device answered, and its answer reports a failure. -/
  | device (reason : String)
deriving DecidableEq

namespace CallError

def message : CallError → String
  | .unreachable detail => "Device unreachable: " ++ detail
  | .device reason => reason

def isUnreachable : CallError → Bool
  | .unreachable _ => true
  | .device _ => false

end CallError

abbrev Reply (α : Type) : Type := Except CallError α

inductive Call where
  | read (param : ParamRef)
  | write (param : ParamRef) (value : ParamValue)
  | paramTable
  | dpdResults
  | dpdCommand (command : Predistortion.Command)

namespace Call

abbrev Result : Call → Type
  | .read _ => ParamValue
  | .write _ _ => Unit
  | .paramTable => ParamTable
  | .dpdResults => Predistortion.Results
  | .dpdCommand _ => Unit

end Call

/-- A device that answers every call. An answer may depend on all that was asked before, by way of
the state. -/
abbrev Client (σ : Type) : Type := (call : Call) → σ → Reply call.Result × σ

end ModulatorHealth
