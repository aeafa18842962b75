import ModulatorHealth.Device.Call

/-! A device that answers from scripts. Each parameter has a row of replies, of which the last one
repeats; a write that succeeds replaces the row by the value written. -/
namespace ModulatorHealth

/-- Replies in order; the last one repeats. -/
abbrev Script (α : Type) : Type := List (Reply α)

def Script.next? {α : Type} : Script α → Option (Reply α) × Script α
  | [] => (none, [])
  | [reply] => (some reply, [reply])
  | reply :: rest => (some reply, rest)

structure ScriptedDevice where
  scripts : List (ParamRef × Script ParamValue)
  writeError : Option CallError
  paramTable : Option (Reply ParamTable)
  dpd : Script Predistortion.Results
  readLog : List ParamRef
  writes : List (ParamRef × ParamValue)
  commands : List Predistortion.Command

namespace ScriptedDevice

def empty : ScriptedDevice := ⟨[], none, none, [], [], [], []⟩

def script (d : ScriptedDevice) (p : ParamRef) : Script ParamValue :=
  ((d.scripts.find? fun entry => entry.1 = p).map Prod.snd).getD []

def withScript (d : ScriptedDevice) (p : ParamRef) (script : Script ParamValue) : ScriptedDevice :=
  { d with scripts := (p, script) :: d.scripts.filter fun entry => entry.1 ≠ p }

def withTexts (d : ScriptedDevice) (p : ParamRef) (texts : List String) : ScriptedDevice :=
  d.withScript p (texts.map fun text => .ok (.text text))

def checkedParams : List ParamRef :=
  [⟨"sdr", "freq"⟩, ⟨"sdr", "frames"⟩, ⟨"sdr", "gpsdo_num_sv"⟩, ⟨"sdr", "underruns"⟩,
    ⟨"sdr", "latepackets"⟩, ⟨"modulator", "rate"⟩]

def healthy : ScriptedDevice :=
  let device := empty
    |>.withTexts ⟨"sdr", "freq"⟩ ["229072000"]
    |>.withTexts ⟨"sdr", "frames"⟩ ["1000", "1010"]
    |>.withTexts ⟨"sdr", "gpsdo_num_sv"⟩ ["7"]
    |>.withTexts ⟨"sdr", "underruns"⟩ ["0"]
    |>.withTexts ⟨"sdr", "latepackets"⟩ ["0"]
    |>.withTexts ⟨"modulator", "rate"⟩ ["8192000"]
  { device with dpd := [.ok { Predistortion.Results.empty with state := some "Idle" }] }

/-- A device whose checked parameters, writes, table and predistortion results cannot be reached. -/
def unreachable (detail : String) : ScriptedDevice :=
  let device := checkedParams.foldl
    (fun device p => device.withScript p [.error (.unreachable detail)]) empty
  { device with
    writeError := some (.unreachable detail)
    paramTable := some (.error (.unreachable detail))
    dpd := [.error (.unreachable detail)] }

def read (d : ScriptedDevice) (p : ParamRef) : Reply ParamValue × ScriptedDevice :=
  let d := { d with readLog := d.readLog ++ [p] }
  match (d.script p).next? with
  | (some reply, rest) => (reply, d.withScript p rest)
  | (none, _) => (.error (.device ("Error getting param: " ++ p.text ++ " not found")), d)

def write (d : ScriptedDevice) (p : ParamRef) (value : ParamValue) : Reply Unit × ScriptedDevice :=
  match d.writeError with
  | some e => (.error e, d)
  | none => (.ok (), { d.withScript p [.ok value] with writes := d.writes ++ [(p, value)] })

def readDpd (d : ScriptedDevice) : Reply Predistortion.Results × ScriptedDevice :=
  match d.dpd.next? with
  | (some reply, rest) => (reply, { d with dpd := rest })
  | (none, _) => (.error (.device "DPD state unknown"), d)

/-- The device as a client. Commands are always acknowledged. -/
def answer : Client ScriptedDevice
  | .read p, d => d.read p
  | .write p value, d => d.write p value
  | .paramTable, d => (d.paramTable.getD (.ok []), d)
  | .dpdResults, d => d.readDpd
  | .dpdCommand command, d => (.ok (), { d with commands := d.commands ++ [command] })

def readCount (d : ScriptedDevice) (p : ParamRef) : Nat := d.readLog.count p

end ScriptedDevice
end ModulatorHealth
