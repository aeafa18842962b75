import ModulatorHealth.Check.SampleHistory
import ModulatorHealth.Config
import ModulatorHealth.ProbeId

/-! What each probe does, as a plan: the calls it makes, its waits and its words on progress, in an
order that may depend on the answers. -/
namespace ModulatorHealth.Check

inductive Plan (α : Type) where
  | done (result : α)
  | call (call : Call) (next : Reply call.Result → Plan α)
  | sleep (milliseconds : Nat) (next : Plan α)
  | progress (comment : String) (next : Plan α)
  /-- Waits for an answer that never comes. -/
  | stalled

namespace Plan

def map {α β : Type} (f : α → β) : Plan α → Plan β
  | .done result => .done (f result)
  | .call c next => .call c fun reply => (next reply).map f
  | .sleep ms next => .sleep ms (next.map f)
  | .progress comment next => .progress comment (next.map f)
  | .stalled => .stalled

end Plan

def rcReachable : Plan Verdict :=
  .call (.read ⟨"sdr", "freq"⟩) fun reply =>
    .done ((reply.mapError Failure.ofCallError).map fun _ => none)

def judged (param : ParamRef) (verdict : ParamValue → Verdict) : Plan Verdict :=
  .call (.read param) fun reply => .done ((reply.mapError Failure.ofCallError).bind verdict)

def gpsdoQuality (least : Int) : Plan Verdict :=
  judged ⟨"sdr", "gpsdo_num_sv"⟩ (gpsdoVerdict least)

def sampleRate (expected : Int) : Plan Verdict :=
  judged ⟨"modulator", "rate"⟩ (sampleRateVerdict expected)

def dpdEngine : Plan Verdict :=
  .call .dpdResults fun reply => .done ((reply.mapError Failure.ofCallError).bind dpdVerdict)

def frames : ParamRef := ⟨"sdr", "frames"⟩

/-- Two samples of the frame counter. A first sample without frames ends the probe at once. -/
def modulating (recheckDelayMs : Nat) : Plan Verdict :=
  .call (.read frames) fun reply =>
    match (reply.mapError Failure.ofCallError).bind firstFrames with
    | .error failure => .done (.error failure)
    | .ok first =>
      .sleep recheckDelayMs <| .call (.read frames) fun reply =>
        .done ((sampled frameCount reply).bind (framesVerdict first))

/-- An error counter, sampled once as a baseline and then once a round. -/
structure Counter where
  id : ProbeId
  param : ParamRef
  label : CounterLabel
  rounds : UInt32
  intervalMs : UInt64

namespace Counter

def new (id : ProbeId) (param : ParamRef) (label : CounterLabel) : Counter :=
  ⟨id, param, label, 3, 2000⟩

def withRounds (c : Counter) (rounds : UInt32) : Counter :=
  { c with rounds := if rounds = 0 then 1 else rounds }

def withInterval (c : Counter) (ms : UInt64) : Counter := { c with intervalMs := ms }

def underruns (config : CheckConfig) : Counter :=
  new .underruns ⟨"sdr", "underruns"⟩ .underruns
    |>.withRounds config.counterRounds |>.withInterval config.counterIntervalMs

def latePackets (config : CheckConfig) : Counter :=
  new .latePackets ⟨"sdr", "latepackets"⟩ .latePackets
    |>.withRounds config.counterRounds |>.withInterval config.counterIntervalMs

def progressText (c : Counter) (round : Nat) : String :=
  if round = 0 then "Checking for " ++ c.label.noun
  else "Check " ++ toString round ++ "/" ++ toString c.rounds.toNat ++ "..."

def sampleRounds (c : Counter) (history : SampleHistory) :
    Nat → Plan (Except Failure SampleHistory)
  | 0 => .call (.read c.param) fun reply =>
      .done ((sampled c.label.title reply).map fun count => (history.record count).1)
  | remaining + 1 => .call (.read c.param) fun reply =>
      match sampled c.label.title reply with
      | .error failure => .done (.error failure)
      | .ok count =>
        .progress (c.progressText (c.rounds.toNat - (remaining + 1))) <|
          .sleep c.intervalMs.toNat <|
            c.sampleRounds (history.record count).1 remaining

def sample (c : Counter) : Plan (Except Failure SampleHistory) :=
  c.sampleRounds (.new c.rounds) c.rounds.toNat

def check (c : Counter) : Plan Verdict :=
  c.sample.map fun sampled => sampled.bind (stableVerdict c.label c.rounds)

end Counter

def planOf (config : CheckConfig) : ProbeId → Plan Verdict
  | .rcReachable => rcReachable
  | .modulating => modulating config.frameRecheckDelayMs.toNat
  | .gpsdoQuality => gpsdoQuality config.minGpsdoSatellites.toInt
  | .underruns => (Counter.underruns config).check
  | .latePackets => (Counter.latePackets config).check
  | .sampleRate => sampleRate config.expectedSampleRate.toInt
  | .dpdEngine => dpdEngine

end ModulatorHealth.Check
