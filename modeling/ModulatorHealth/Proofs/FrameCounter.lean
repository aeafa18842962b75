import ModulatorHealth.Proofs.CounterRounds

/-! The frame counter from its first sample to its verdict. A first reply that shows no frames ends the
probe before it waits; of two samples the second must differ from the first, where an error counter must
not move. -/
namespace ModulatorHealth.Check

theorem isOk_framesVerdict (first second : Int) :
    (framesVerdict first second).isOk = true ↔ first ≠ second := by
  unfold framesVerdict
  split
  · rename_i same
    exact iff_of_false nofun (not_not.mpr same.symm)
  · rename_i moved
    exact iff_of_true rfl (Ne.symm moved)

section Modulating

variable {σ : Type} (client : Client σ) (id : ProbeId) (w : World σ) (delay : Nat)

variable {client id w delay}

end Modulating

end ModulatorHealth.Check
