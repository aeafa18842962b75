import ModulatorHealth.Check.Verdict

/-! The samples of an error counter, which must end where it began. -/
namespace ModulatorHealth.Check

/-- How a counter is named: in the middle of a sentence, and at its start. -/
structure CounterLabel where
  noun : String
  title : String

def CounterLabel.underruns : CounterLabel := ⟨"underruns", "Underruns"⟩

def CounterLabel.latePackets : CounterLabel := ⟨"late packets", "Late packets"⟩

/-- The samples of one run, the baseline first, and how many there may be. -/
structure SampleHistory where
  samples : List Int
  capacity : Nat

namespace SampleHistory

def new (rounds : UInt32) : SampleHistory := ⟨[], rounds.toNat + 1⟩

def isFull (h : SampleHistory) : Bool := h.capacity ≤ h.samples.length

def record (h : SampleHistory) (sample : Int) : SampleHistory × Bool :=
  if h.isFull then (h, false) else ({ h with samples := h.samples ++ [sample] }, true)

def baseline? (h : SampleHistory) : Option Int := h.samples.head?

def last? (h : SampleHistory) : Option Int := h.samples.getLast?

end SampleHistory

def stableVerdict (label : CounterLabel) (rounds : UInt32) (history : SampleHistory) : Verdict :=
  let incomplete : Verdict :=
    .error (.threshold (toString history.samples.length)
      ("Incomplete " ++ label.noun ++ " history: " ++ toString history.samples.length ++ " of "
        ++ toString (rounds + 1).toNat ++ " samples"))
  match history.baseline?, history.last? with
  | some baseline, some last =>
    if !history.isFull then incomplete
    else if last = baseline then
      .ok (some ("Number of " ++ label.noun ++ " is not increasing: " ++ toString last))
    else
      .error (.threshold (toString last)
        (label.title ++ " observed during last " ++ toString rounds.toNat ++ " checks: "
          ++ toString baseline ++ " -> " ++ toString last))
  | _, _ => incomplete

end ModulatorHealth.Check
