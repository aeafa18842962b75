import ModulatorHealth.Proofs.Noninterference
import ModulatorHealth.Proofs.RunCompletion
import ModulatorHealth.Proofs.TrackerPublication

/-! Runs on a tracker that was used before, for any order of probes. A run begins with a reset, which
keeps nothing but the order, and the probes outside the order are checked like the others, although
nothing is recorded of them. -/
namespace ModulatorHealth

namespace Tracker

@[simp] theorem progress_order (t : Tracker) (id : ProbeId) (comment : String) :
    (t.progress id comment).1.order = t.order := by
  unfold progress
  split <;> rfl

theorem resolve_order {t t' : Tracker} {id : ProbeId} {o : Outcome} {events : List Log.Event}
    (accepted : t.resolve id o = .ok (t', events)) : t'.order = t.order := by
  obtain ⟨a, -, rfl, -⟩ := resolve_eq_ok_iff.mp accepted
  rfl

end Tracker

namespace Check

theorem World.resolve_order {σ : Type} (w : World σ) (id : ProbeId) (o : Outcome) :
    (w.resolve id o).tracker.order = w.tracker.order := by
  unfold World.resolve
  split
  · rename_i tracker events accepted
    exact Tracker.resolve_order accepted
  · rfl

theorem Chain.Move.tracker_order {σ : Type} {channel : Channel σ} {chain : Chain} {w : World σ}
    {moved : Chain × World σ} (move : Move channel chain w moved) :
    moved.2.tracker.order = w.tracker.order := by
  cases move with
  | resolved id verdict => exact w.resolve_order id _
  | progressed id comment => exact w.tracker.progress_order id comment
  | idle | stalled | answered | unanswered | slept => rfl

theorem Run.follow_tracker_order {σ : Type} (channel : Channel σ) (schedule : List Branch) (r : Run σ) :
    (r.follow channel schedule).world.tracker.order = r.world.tracker.order := by
  refine follow_induction (P := fun r' => r'.world.tracker.order = r.world.tracker.order) ?_ schedule rfl
  intro branch r' kept
  rw [step_eq, put_world, (Chain.step_move channel _ r'.world).tracker_order, kept]

/-- The states that a tracker of this order can be in: after its operations in any order, and after
runs on any devices, whether they ended or were abandoned. -/
inductive Reached (order : List ProbeId) : Tracker → Prop where
  | fresh : Reached order (.withOrder order)
  | reset {t : Tracker} : Reached order t → Reached order t.reset
  | progress {t : Tracker} (id : ProbeId) (comment : String) :
      Reached order t → Reached order (t.progress id comment).1
  | resolve {t t' : Tracker} (id : ProbeId) (o : Outcome) (events : List Log.Event) :
      t.resolve id o = .ok (t', events) → Reached order t → Reached order t'
  | subscribe {t : Tracker} : Reached order t → Reached order t.subscribe.1
  | take {t : Tracker} (subscriber : Nat) : Reached order t → Reached order (t.take subscriber).1
  | run {σ : Type} (channel : Channel σ) (config : CheckConfig) (w : World σ)
      (schedule : List Branch) : Reached order w.tracker →
      Reached order ((Run.start config w).follow channel schedule).world.tracker

theorem Reached.order_eq {order : List ProbeId} {t : Tracker} (reached : Reached order t) :
    t.order = order := by
  induction reached with
  | fresh => rfl
  | reset _ ih | subscribe _ ih | take _ _ ih => exact ih
  | progress id comment _ ih => rw [Tracker.progress_order, ih]
  | resolve id o events accepted _ ih => rw [Tracker.resolve_order accepted, ih]
  | run channel config w schedule _ ih => rw [Run.follow_tracker_order]; exact ih

namespace Run

/-- A run on a tracker in any state ends under every fair schedule. It reports the probes of the
order, once each, with the outcomes that a run on the full tracker records when the device has the
same replies; latch and status say what these outcomes say; every probe, of the order or not, makes
the same requests; and a subscriber that looks afterwards sees what was reported. -/
theorem restricts_to_order {order : List ProbeId} {tracker : Tracker} (reached : Reached order tracker)
    {d d' : ScriptedDevice} (same : ∀ id, d.row (asked id) = d'.row (asked id))
    (config : CheckConfig) :
    let begun := start config (World.start d tracker)
    let ended (schedule : List Branch) := begun.follow (answering ScriptedDevice.answer) schedule
    let whole (schedule : List Branch) :=
      (start config (World.start d' .new)).follow (answering ScriptedDevice.answer) schedule
    (∀ turns, Fair turns → ∃ n, ∀ m, n ≤ m →
        (begun.stage (answering ScriptedDevice.answer) turns m).isFinished = true) ∧
      ∀ schedule schedule', (ended schedule).isFinished = true →
        (whole schedule').isFinished = true →
        let a := (ended schedule).aggregate
        (a.ids.Nodup ∧ (∀ id, id ∈ a.ids ↔ id ∈ order) ∧
          a.ids.Pairwise fun x y => order.idxOf x < order.idxOf y) ∧
        (∀ id ∈ order, a.outcome? id = (whole schedule').aggregate.outcome? id) ∧
        (a.failureSeen = true ↔ ∃ entry ∈ a.entries, entry.outcome.isFail = true) ∧
        a.overall =
          (if ∀ entry ∈ a.entries, entry.outcome.isOk = true then .ok else .degraded) ∧
        (∀ id, (ended schedule).world.requests id = (whole schedule').world.requests id) ∧
        ∀ subscriber, ((ended schedule).close.tracker.take subscriber).2 = a := by
  intro begun ended whole
  refine ⟨fun turns => (orderly_start config _).finishes (answers_answering _), ?_⟩
  intro schedule schedule' finished finished' a
  have sound : (ended schedule).Sound order := by
    have begun : begun.Sound tracker.order := sound_start config (World.start d tracker)
    rw [reached.order_eq] at begun
    exact begun.follow _ schedule
  have alike := fun id => ended_alike finished finished' (same id)
  have ids : a.ids = Aggregate.firstOccurrences order := sound.ids
  refine ⟨⟨sound.aggregate.nodup, fun id => ?_, ?_⟩, fun id known => ?_,
    sound.aggregate.failureSeen_iff,
    sound.aggregate.overall_of_isComplete (sound.isComplete_of_isFinished finished),
    fun id => congrArg (List.filterMap Act.call?) (alike id).1, fun subscriber => ?_⟩
  · rw [ids, Aggregate.mem_firstOccurrences]
  · rw [ids]
    exact Aggregate.firstOccurrences_pairwise order
  · refine (alike id).2 (iff_of_true ?_ (ProbeId.mem_order id))
    exact reached.order_eq ▸ known
  · simp only [Tracker.take, close, finished, if_true]
    rfl

/-- A tracker of two probes, left in the middle of a run after the first of them failed. -/
def abandoned : Tracker :=
  ((start .standard (World.start (.unreachable "down")
      (.withOrder [.dpdEngine, .rcReachable, .dpdEngine]))).follow
    (answering ScriptedDevice.answer) [.main, .main, .late]).world.tracker

theorem restricts_abandoned :
    let ended (tracker : Tracker) (schedule : List Branch) :=
      (start .standard (World.start .healthy tracker)).follow (answering ScriptedDevice.answer) schedule
    abandoned.aggregate.failureSeen = true ∧
      Reached [.dpdEngine, .rcReachable, .dpdEngine] abandoned ∧
      ∃ schedule schedule', (ended abandoned schedule).isFinished = true ∧
        (ended .new schedule').isFinished = true ∧
        let a := (ended abandoned schedule).aggregate
        (∀ id ∈ [.dpdEngine, .rcReachable, .dpdEngine],
          a.outcome? id = (ended .new schedule').aggregate.outcome? id) ∧
        (a.failureSeen = true ↔ ∃ entry ∈ a.entries, entry.outcome.isFail = true) ∧
        ∀ id, (ended abandoned schedule).world.requests id =
          (ended .new schedule').world.requests id := by
  intro ended
  have reached : Reached [.dpdEngine, .rcReachable, .dpdEngine] abandoned := .run _ _ _ _ .fresh
  obtain ⟨schedule, -, finished⟩ := exists_schedule_of_run
    (answers_answering ScriptedDevice.answer) .standard (World.start .healthy abandoned)
  obtain ⟨schedule', -, finished'⟩ := exists_schedule_of_run
    (answers_answering ScriptedDevice.answer) .standard (World.start .healthy .new)
  obtain ⟨-, outcomes, latch, -, requests, -⟩ :=
    (restricts_to_order reached (fun _ => rfl) .standard).2 schedule schedule' finished finished'
  exact ⟨by decide, reached, schedule, schedule', finished, finished', outcomes, latch, requests⟩

end Run
end Check
end ModulatorHealth
