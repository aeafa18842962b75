import ModulatorHealth.Failure
import ModulatorHealth.Terminal.Lines

/-! Queries: the commands that make a single call. Each is that call together with the lines that
its result prints. -/
namespace ModulatorHealth

inductive DpdAction where
  | status (json : Bool)
  | calibrate
  | triggerRun
  | adapt
  | reset
  | restoreDump (id : String)
deriving DecidableEq

inductive Query where
  | get (controllable param : String)
  | set (controllable param value : String)
  | params (json : Bool)
  | dpd (action : DpdAction)
deriving DecidableEq

structure Inquiry where
  call : Call
  context : String
  lines : call.Result → List String

namespace Inquiry

def address (controllable param : String) : Except Failure ParamRef :=
  (ParamRef.new controllable param).mapError fun invalid => .of (.param invalid)

def get (controllable param : String) : Except Failure Inquiry :=
  (address controllable param).map fun p =>
    ⟨.read p, "Failed to read " ++ p.text, fun value => [ParamValue.display value]⟩

def set (controllable param value : String) : Except Failure Inquiry :=
  (address controllable param).map fun p =>
    let value := ParamValue.parse value
    ⟨.write p value, "Failed to set " ++ p.text, fun _ => [p.text ++ " = " ++ value.display]⟩

def params (json : Bool) : Inquiry :=
  ⟨.paramTable, "Failed to fetch the parameter table", fun table =>
    if json then [(ParamTable.toJson table).pretty] else Terminal.paramTableLines table⟩

def dpdStatus (json : Bool) : Inquiry :=
  ⟨.dpdResults, "Failed to fetch predistortion results", fun results =>
    if json then [(Predistortion.Results.toJson results).pretty] else Terminal.dpdLines results⟩

def dpdCommand (command : Predistortion.Command) : Inquiry :=
  ⟨.dpdCommand command, "Predistortion " ++ command.display ++ " failed", fun _ =>
    ["Predistortion " ++ command.display ++ ": acknowledged"]⟩

def dpd : DpdAction → Inquiry
  | .status json => dpdStatus json
  | .calibrate => dpdCommand .calibrate
  | .triggerRun => dpdCommand .triggerRun
  | .adapt => dpdCommand .adapt
  | .reset => dpdCommand .reset
  | .restoreDump id => dpdCommand (.restoreDump id)

def ofQuery : Query → Except Failure Inquiry
  | .get controllable param => get controllable param
  | .set controllable param value => set controllable param value
  | .params json => .ok (params json)
  | .dpd action => .ok (dpd action)

def conclude (i : Inquiry) (reply : Reply i.call.Result) : Except Failure (List String) :=
  match reply with
  | .ok result => .ok (i.lines result)
  | .error e => .error ((Failure.of (.call e)).wrap i.context)

def run {σ : Type} (i : Inquiry) (client : Client σ) (device : σ) :
    Except Failure (List String) × σ :=
  let (reply, device) := client i.call device
  (i.conclude reply, device)

end Inquiry

end ModulatorHealth
