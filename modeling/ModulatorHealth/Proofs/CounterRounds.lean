import ModulatorHealth.Proofs.ProbeDeeds

/-! An error counter from its baseline to its verdict. In every round but the last the probe reads, says how
far it is, and waits; the first reply that holds no integer ends it on the spot. The history has room for
every sample and is full when it is judged, so the first and the last sample decide alone. -/
namespace ModulatorHealth.Check

namespace SampleHistory

theorem isFull_iff (h : SampleHistory) : h.isFull = true ↔ h.capacity ≤ h.samples.length := by
  simp [isFull]

theorem record_of_lt {h : SampleHistory} (room : h.samples.length < h.capacity) (sample : Int) :
    h.record sample = (⟨h.samples ++ [sample], h.capacity⟩, true) := by
  rw [record, if_neg]
  rw [isFull_iff]
  omega

variable (rounds : UInt32) (counts : Nat → Int) {k : Nat}

end SampleHistory

theorem isOk_stableVerdict (label : CounterLabel) (rounds : UInt32) {history : SampleHistory}
    (full : history.isFull = true) {first last : Int} (baseline : history.baseline? = some first)
    (final : history.last? = some last) :
    (stableVerdict label rounds history).isOk = true ↔ first = last := by
  simp only [stableVerdict, baseline, final, full, Bool.not_true, Bool.false_eq_true, if_false]
  split
  · rename_i same
    exact iff_of_true rfl same.symm
  · rename_i moved
    exact iff_of_false nofun (Ne.symm moved)

namespace Counter

variable (c : Counter)

section Barred

end Barred

section Course

def roundDeeds (round : Nat) : List Deed :=
  [.called (.read c.param), .told (c.progressText round), .slept c.intervalMs.toNat]

def course (round : Nat) : List Deed :=
  (List.range round).flatMap c.roundDeeds ++ [.called (.read c.param)]

variable {σ : Type} (client : Client σ) (id : ProbeId)

variable {c client} {w : World σ} {history : SampleHistory} {remaining : Nat}

section Round

variable {count : Int} {failure : Failure}

end Round

end Course

end Counter
end ModulatorHealth.Check
