import ModulatorHealth.Proofs.SequentialReference

/-! No probe can tell what another one was answered. Two devices that answer the question of one
probe differently, and all others alike, are the same to the other six probes: whatever the
schedules, these ask the same and come to the same outcomes. -/
namespace ModulatorHealth.Check

def Act.call? : Act → Option Call
  | .called call => some call
  | .slept _ => none

def World.requests {σ : Type} (w : World σ) (id : ProbeId) : List Call :=
  (actsOf id w.trace).filterMap Act.call?

theorem alone_congr (config : CheckConfig) {d d' : ScriptedDevice} {id : ProbeId}
    (same : d.row (asked id) = d'.row (asked id)) : alone config d id = alone config d' id := by
  rw [alone, alone, ScriptedDevice.only_congr same]

namespace Run

variable {config : CheckConfig} {d d' : ScriptedDevice} {tracker tracker' : Tracker}
  {schedule schedule' : List Branch}

/-- A probe with the same replies before it ends in the same way, if both runs keep track of it. -/
theorem ended_alike
    (finished : ((start config (World.start d tracker)).follow (answering ScriptedDevice.answer)
      schedule).isFinished = true)
    (finished' : ((start config (World.start d' tracker')).follow (answering ScriptedDevice.answer)
      schedule').isFinished = true)
    {id : ProbeId} (same : d.row (asked id) = d'.row (asked id)) :
    let r := (start config (World.start d tracker)).follow (answering ScriptedDevice.answer) schedule
    let r' := (start config (World.start d' tracker')).follow (answering ScriptedDevice.answer) schedule'
    actsOf id r.world.trace = actsOf id r'.world.trace ∧
      ((id ∈ tracker.order ↔ id ∈ tracker'.order) →
        r.aggregate.outcome? id = r'.aggregate.outcome? id) := by
  intro r r'
  have sound : r.Sound tracker.order :=
    (sound_start config (World.start d tracker)).follow _ schedule
  have sound' : r'.Sound tracker'.order :=
    (sound_start config (World.start d' tracker')).follow _ schedule'
  obtain ⟨verdict, ran, told⟩ := ended_as_alone finished id
  obtain ⟨verdict', ran', told'⟩ := ended_as_alone finished' id
  rw [alone_congr config same] at ran
  obtain ⟨verdicts, acts⟩ := Prod.mk.inj (ran.symm.trans ran')
  refine ⟨acts, fun tracked => ?_⟩
  by_cases known : id ∈ tracker.order
  · obtain ⟨o, found⟩ := sound.exists_outcome known
    obtain ⟨o', found'⟩ := sound'.exists_outcome (tracked.mp known)
    rw [found, found', told o found, told' o' found', Option.some.inj verdicts]
  · rw [sound.outcome?_eq_none known, sound'.outcome?_eq_none fun h => known (tracked.mpr h)]

/-- Of two devices that differ at most in the replies to one probe, both are checked to the end under
every fair schedule, and whatever the schedules were, each other probe has made the same requests
and has the same outcome. -/
theorem unaffected_by_replies_to {x : ProbeId}
    (differ : ∀ id, id ≠ x → d.row (asked id) = d'.row (asked id)) (config : CheckConfig)
    (tracker : Tracker) :
    let begun (device : ScriptedDevice) := start config (World.start device tracker)
    let ended (device : ScriptedDevice) (schedule : List Branch) :=
      (begun device).follow (answering ScriptedDevice.answer) schedule
    (∀ device turns, Fair turns → ∃ n, ∀ m, n ≤ m →
        ((begun device).stage (answering ScriptedDevice.answer) turns m).isFinished = true) ∧
      ∀ schedule schedule', (ended d schedule).isFinished = true →
        (ended d' schedule').isFinished = true → ∀ id, id ≠ x →
          (ended d schedule).aggregate.outcome? id = (ended d' schedule').aggregate.outcome? id ∧
          (ended d schedule).world.requests id = (ended d' schedule').world.requests id := by
  intro begun ended
  refine ⟨fun device turns => (orderly_start config _).finishes (answers_answering _), ?_⟩
  intro schedule schedule' finished finished' id other
  obtain ⟨acts, outcomes⟩ := ended_alike finished finished' (differ id other)
  exact ⟨outcomes Iff.rfl, congrArg (List.filterMap Act.call?) acts⟩

def unsteady : ScriptedDevice :=
  ScriptedDevice.healthy.withScript ⟨"sdr", "underruns"⟩
    [.ok (.text "4"), .error (.unreachable "Request timed out"), .ok (.text "9")]

theorem unaffected_by_underruns :
    let ended (device : ScriptedDevice) (schedule : List Branch) :=
      (start .standard (World.start device .new)).follow (answering ScriptedDevice.answer) schedule
    (∀ id, id ≠ .underruns →
        ScriptedDevice.healthy.row (asked id) = unsteady.row (asked id)) ∧
      ∃ schedule schedule', (ended .healthy schedule).isFinished = true ∧
        (ended unsteady schedule').isFinished = true ∧ ∀ id, id ≠ .underruns →
          (ended .healthy schedule).aggregate.outcome? id =
            (ended unsteady schedule').aggregate.outcome? id ∧
          (ended .healthy schedule).world.requests id =
            (ended unsteady schedule').world.requests id := by
  intro ended
  have differ : ∀ id, id ≠ .underruns →
      ScriptedDevice.healthy.row (asked id) = unsteady.row (asked id) := by
    intro id other
    cases id with
    | underruns => exact absurd rfl other
    | dpdEngine => rfl
    | _ => simp [unsteady, asked, frames, ScriptedDevice.row, ScriptedDevice.script_withScript]
  obtain ⟨schedule, -, finished⟩ := exists_schedule_of_run
    (answers_answering ScriptedDevice.answer) .standard (World.start .healthy .new)
  obtain ⟨schedule', -, finished'⟩ := exists_schedule_of_run
    (answers_answering ScriptedDevice.answer) .standard (World.start unsteady .new)
  exact ⟨differ, schedule, schedule', finished, finished',
    (unaffected_by_replies_to differ .standard .new).2 schedule schedule' finished finished'⟩

end Run
end ModulatorHealth.Check
