import ModulatorHealth.Check.Verdict
import ModulatorHealth.ConfigFile

/-! Failures of a command: what went wrong, wrapped in what was being done. The exit status depends
on the cause alone. -/
namespace ModulatorHealth

inductive ExitStatus where
  | success
  | failure
  | degraded
  | badResponse
  | deviceUnavailable
deriving DecidableEq

def ExitStatus.code : ExitStatus → Nat
  | .success => 0
  | .failure => 1
  | .degraded => 2
  | .badResponse => 65
  | .deviceUnavailable => 70

inductive Cause where
  | call (error : CallError)
  | probe (failure : Check.Failure)
  | config (error : ConfigError)
  | param (invalid : ParamRef.Invalid)
  | other (message : String)
deriving DecidableEq

namespace Cause

def texts : Cause → List String
  | .call e => [e.message]
  | .probe f => [f.message]
  | .config e => e.message :: e.source?.toList
  | .param e => [e.message]
  | .other message => [message]

def status : Cause → ExitStatus
  | .call (.unreachable _) => .deviceUnavailable
  | .call (.device _) => .badResponse
  | .probe _ | .config _ | .param _ | .other _ => .failure

end Cause

/-- A cause with its contexts, the outermost first. -/
structure Failure where
  contexts : List String
  cause : Cause
deriving DecidableEq

namespace Failure

def of (cause : Cause) : Failure := ⟨[], cause⟩

def wrap (context : String) (f : Failure) : Failure := { f with contexts := context :: f.contexts }

def texts (f : Failure) : List String := f.contexts ++ f.cause.texts

def top (f : Failure) : String := f.texts.headD ""

def message (f : Failure) : String := ": ".intercalate f.texts

def status (f : Failure) : ExitStatus := f.cause.status

end Failure
end ModulatorHealth
