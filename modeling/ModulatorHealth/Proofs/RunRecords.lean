import ModulatorHealth.Proofs.ProbeCourses

/-! What is left on record of a run: the delays in its trace and the reads in the log of the device.
Both come apart by probe. -/
namespace ModulatorHealth.Check

/-- A list comes apart by a key, if every key occurs once among the keys. -/
theorem perm_flatMap_filter {α : Type} (key : α → ProbeId) (l : List α) {keys : List ProbeId}
    (nodup : keys.Nodup) :
    (l.filter fun x => key x ∈ keys).Perm (keys.flatMap fun k => l.filter fun x => key x = k) := by
  induction keys with
  | nil => simp
  | cons k rest ih =>
    obtain ⟨fresh, nodup⟩ := List.nodup_cons.mp nodup
    have apart := List.filter_append_perm (fun x => decide (key x = k))
      (l.filter fun x => key x ∈ k :: rest)
    have first : (l.filter fun x => key x ∈ k :: rest).filter (fun x => decide (key x = k)) =
        l.filter fun x => key x = k := by
      rw [List.filter_filter]
      refine List.filter_congr fun x _ => ?_
      by_cases here : key x = k <;> simp [here]
    have others : (l.filter fun x => key x ∈ k :: rest).filter (fun x => !decide (key x = k)) =
        l.filter fun x => key x ∈ rest := by
      rw [List.filter_filter]
      refine List.filter_congr fun x _ => ?_
      by_cases here : key x = k
      · simp [here, fresh]
      · simp [here]
    rw [first, others] at apart
    rw [List.flatMap_cons]
    exact apart.symm.trans ((ih nodup).append_left _)

theorem filterMap_act_perm {α : Type} (f : Act → Option α) (trace : List Event) :
    (trace.filterMap fun event => f event.act).Perm
      (ProbeId.order.flatMap fun id => (actsOf id trace).filterMap f) := by
  have all : (trace.filter fun event => event.probe ∈ ProbeId.order) = trace :=
    List.filter_eq_self.mpr fun event _ => by simp [ProbeId.mem_order]
  have apart := perm_flatMap_filter Event.probe trace ProbeId.nodup_order
  rw [all] at apart
  refine (apart.filterMap _).trans (.of_eq ?_)
  simp only [List.filterMap_flatMap, actsOf, List.filterMap_map]
  rfl

namespace Act

def delay? : Act → Option Nat
  | .called _ => none
  | .slept ms => some ms

def param? : Act → Option ParamRef
  | .called call => call.param?
  | .slept _ => none

end Act

theorem World.delays_eq {σ : Type} (w : World σ) :
    w.delays = w.trace.filterMap fun event => event.act.delay? := by
  unfold World.delays
  congr
  funext event
  cases event <;> rfl

def World.Logged (earlier : List ParamRef) (w : World ScriptedDevice) : Prop :=
  w.device.readLog = earlier ++ w.trace.filterMap fun event => event.act.param?

theorem World.Logged.call {earlier : List ParamRef} {w : World ScriptedDevice}
    (logged : w.Logged earlier) (id : ProbeId) (seen : Aggregate) :
    World.Logged earlier { w.note (.called id (asked id) seen) with
      device := (ScriptedDevice.answer (asked id) w.device).2 } := by
  unfold World.Logged at *
  simp only [World.note_trace, ScriptedDevice.readLog_answer _ (asked_isQuery id), logged,
    List.filterMap_append, List.append_assoc, List.append_cancel_left_eq]
  rfl

theorem Chain.Move.logged {chain : Chain} {w : World ScriptedDevice}
    {moved : Chain × World ScriptedDevice}
    (move : Move (answering ScriptedDevice.answer) chain w moved)
    (orderly : chain.Orderly (answering ScriptedDevice.answer)) {earlier : List ParamRef}
    (logged : w.Logged earlier) : moved.2.Logged earlier := by
  cases move with
  | idle | stalled => exact logged
  | resolved | progressed => simpa [World.Logged] using logged
  | slept => simpa [World.Logged, Event.act, Act.param?] using logged
  | answered id call next rest w reply device answer =>
    obtain ⟨⟨rfl, -⟩, -⟩ := orderly.of_cons (by simp)
    cases answer
    exact logged.call id _
  | unanswered id call next rest w device silence => cases silence

theorem Run.follow_logged {r : Run ScriptedDevice}
    (orderly : r.Orderly (answering ScriptedDevice.answer)) {earlier : List ParamRef}
    (logged : r.world.Logged earlier) (schedule : List Branch) :
    (r.follow (answering ScriptedDevice.answer) schedule).world.Logged earlier := by
  refine (follow_induction
    (P := fun r => r.world.Logged earlier ∧ r.Orderly (answering ScriptedDevice.answer)) ?_ schedule
    ⟨logged, orderly⟩).1
  rintro branch r ⟨logged, orderly⟩
  refine ⟨?_, orderly.step branch⟩
  rw [step_eq, put_world]
  exact (Chain.step_move _ _ _).logged (orderly _) logged

end ModulatorHealth.Check
