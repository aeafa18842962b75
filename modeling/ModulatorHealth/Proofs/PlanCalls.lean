import ModulatorHealth.Check.Plan

/-! What the plans of the probes ask. Each probe has one question of its own, asks no other, and
goes on whatever the answer. -/
namespace ModulatorHealth.Check

def asked : ProbeId → Call
  | .rcReachable => .read ⟨"sdr", "freq"⟩
  | .modulating => .read frames
  | .gpsdoQuality => .read ⟨"sdr", "gpsdo_num_sv"⟩
  | .underruns => .read ⟨"sdr", "underruns"⟩
  | .latePackets => .read ⟨"sdr", "latepackets"⟩
  | .sampleRate => .read ⟨"modulator", "rate"⟩
  | .dpdEngine => .dpdResults

theorem asked_injective {x y : ProbeId} (same : asked x = asked y) : x = y := by
  cases x <;> cases y <;> simp [asked, frames] at same ⊢

namespace Plan

variable {α β : Type}

/-- Every call of the plan is this question, and the plan goes on after each answer to its end. -/
def Asks (question : Call) : Plan α → Prop
  | .done _ => True
  | .call c next => c = question ∧ ∀ reply, (next reply).Asks question
  | .sleep _ next => next.Asks question
  | .progress _ next => next.Asks question
  | .stalled => False

theorem Asks.map {question : Call} {plan : Plan α} (asks : plan.Asks question) (f : α → β) :
    (plan.map f).Asks question := by
  induction plan with
  | done => trivial
  | stalled => exact asks
  | call c next ih => exact ⟨asks.1, fun reply => ih reply (asks.2 reply)⟩
  | sleep _ next ih | progress _ next ih => exact ih asks

end Plan

theorem Counter.sampleRounds_asks (c : Counter) (history : SampleHistory) (remaining : Nat) :
    (c.sampleRounds history remaining).Asks (.read c.param) := by
  induction remaining generalizing history with
  | zero => exact ⟨rfl, fun _ => trivial⟩
  | succ remaining ih =>
    refine ⟨rfl, fun reply => ?_⟩
    dsimp only
    split
    · trivial
    · exact ih _

theorem Counter.check_asks (c : Counter) : c.check.Asks (.read c.param) :=
  (c.sampleRounds_asks _ _).map _

theorem modulating_asks (recheckDelayMs : Nat) : (modulating recheckDelayMs).Asks (.read frames) := by
  refine ⟨rfl, fun reply => ?_⟩
  dsimp only
  split
  · trivial
  · exact ⟨rfl, fun _ => trivial⟩

theorem planOf_asks (config : CheckConfig) (id : ProbeId) :
    (planOf config id).Asks (asked id) := by
  cases id with
  | modulating => exact modulating_asks _
  | underruns => exact (Counter.underruns config).check_asks
  | latePackets => exact (Counter.latePackets config).check_asks
  | rcReachable | gpsdoQuality | sampleRate | dpdEngine => exact ⟨rfl, fun _ => trivial⟩

end ModulatorHealth.Check
