import ModulatorHealth.Proofs.RunRecords
import ModulatorHealth.Proofs.RunSchedule
import ModulatorHealth.Proofs.ScriptedReference

/-! The order of the steps does not matter on a scripted device. Whatever the schedule, a run ends as
if each probe had run alone, on a device with nothing but its row of replies, and the outcomes had
been recorded one after another. -/
namespace ModulatorHealth

/-- The reply to a question that was asked so many times before: the items of its row in order, and the
last one for good. -/
def ScriptedDevice.replyTo (d : ScriptedDevice) (question : Call) (before : Nat) :
    Reply question.Result :=
  (d.row question)[min before ((d.row question).length - 1)]?.getD (answer question empty).1

namespace Check

/-- How a plan ends that is carried out alone, with numbered replies, and all that it does. -/
def Plan.alone {α : Type} (replies : (call : Call) → Nat → Reply call.Result) :
    Plan α → Nat → Option α × List Act
  | .done result, _ => (some result, [])
  | .stalled, _ => (none, [])
  | .call c next, calls =>
    let (result, acts) := (next (replies c calls)).alone replies (calls + 1)
    (result, .called c :: acts)
  | .sleep ms next, calls =>
    let (result, acts) := next.alone replies calls
    (result, .slept ms :: acts)
  | .progress _ next, calls => next.alone replies calls

def alone (config : CheckConfig) (d : ScriptedDevice) (id : ProbeId) : Option Verdict × List Act :=
  (planOf config id).alone (d.only (asked id)).replyTo 0

/-- The outcome that is recorded of a verdict: the comment, or the text of the failure. -/
def recorded : Verdict → Outcome
  | .ok comment => .ok comment
  | .error (.unreachable detail) => .fail ("Device unreachable: " ++ detail)
  | .error (.device reason) => .fail reason
  | .error (.threshold _ reason) => .fail reason

theorem outcome_eq_recorded (verdict : Verdict) : verdict.outcome = recorded verdict := by
  rcases verdict with (_ | _ | _) | _ <;> rfl

/-- The probes one after another, each alone, and what is recorded of them. -/
def sequential (config : CheckConfig) (d : ScriptedDevice) (order : List ProbeId) : Aggregate :=
  (Aggregate.new order).after (ProbeId.order.filterMap fun id =>
    (alone config d id).1.map fun verdict => .resolve id (recorded verdict))

/-- On the device the plan ends as it does alone, and what it does is added to what was done. By
induction on the plan: as many replies are gone from its row as it has made calls. -/
theorem Plan.Asks.forecast_eq_alone {id : ProbeId} {plan : Plan Verdict}
    (asks : plan.Asks (asked id)) {d : ScriptedDevice} {w : World ScriptedDevice} {calls : Nat}
    (row : w.device.row (asked id) = (d.row (asked id)).remaining calls) :
    forecast id plan w = ((plan.alone d.replyTo calls).1,
      actsOf id w.trace ++ (plan.alone d.replyTo calls).2) := by
  induction plan generalizing w calls with
  | done => simp [forecast, Plan.run, Plan.alone]
  | stalled => exact asks.elim
  | sleep ms next ih =>
    rw [forecast_sleep, ih asks (by simpa using row)]
    simp [actsOf_concat, Event.probe, Event.act, Plan.alone]
  | progress comment next ih =>
    rw [forecast_progress, ih asks (by simpa using row)]
    simp [Plan.alone]
  | call c next ih =>
    obtain ⟨rfl, asks⟩ := asks
    obtain ⟨reply, rest⟩ := w.device.answer_eq_next? (asked_isQuery id)
    rw [row, Script.next?_remaining] at reply rest
    rw [forecast_call, reply, ih _ (asks _) rest]
    simp [actsOf_concat, Event.probe, Event.act, Plan.alone, ScriptedDevice.replyTo]

theorem Plan.Asks.alone_eq_some {α : Type} {question : Call} {plan : Plan α}
    (asks : plan.Asks question) (replies : (call : Call) → Nat → Reply call.Result) (calls : Nat) :
    ∃ result, (plan.alone replies calls).1 = some result := by
  induction plan generalizing calls with
  | done result => exact ⟨result, rfl⟩
  | stalled => exact asks.elim
  | sleep _ next ih | progress _ next ih => exact ih asks calls
  | call c next ih => exact ih _ (asks.2 _) (calls + 1)

section Alone

variable (config : CheckConfig) (d : ScriptedDevice)

theorem exists_alone_eq_some (id : ProbeId) : ∃ verdict, (alone config d id).1 = some verdict :=
  (planOf_asks config id).alone_eq_some _ _

theorem sound_sequential (order : List ProbeId) : (sequential config d order).Sound :=
  (Aggregate.sound_new order).after _

theorem ids_sequential (order : List ProbeId) :
    (sequential config d order).ids = Aggregate.firstOccurrences order := by
  rw [sequential, Aggregate.ids_after, Aggregate.ids_new]

theorem outcome?_sequential (order : List ProbeId) {id : ProbeId} (known : id ∈ order)
    {verdict : Verdict} (ran : (alone config d id).1 = some verdict) :
    (sequential config d order).outcome? id = some (recorded verdict) := by
  choose verdictOf ranAll using exists_alone_eq_some config d
  have same : verdictOf id = verdict := Option.some.inj ((ranAll id).symm.trans ran)
  have changes : (ProbeId.order.filterMap fun id =>
      (alone config d id).1.map fun verdict => Aggregate.Change.resolve id (recorded verdict)) =
        ProbeId.order.map fun id => .resolve id (recorded (verdictOf id)) := by
    simp [ranAll]
  have found : (Aggregate.new order).outcome? id = some (.pending none) := by
    rw [Aggregate.outcome?_new, if_pos known]
  rw [sequential, changes, ← same]
  exact Aggregate.outcome?_after_resolves _ (fun id => recorded (verdictOf id)) ProbeId.nodup_order
    (ProbeId.mem_order id) found rfl

end Alone

namespace Run

section Ended

variable {config : CheckConfig} {d : ScriptedDevice} {tracker : Tracker} {schedule : List Branch}
  (finished : ((start config (World.start d tracker)).follow (answering ScriptedDevice.answer)
    schedule).isFinished = true)
include finished

theorem ended_as_alone (id : ProbeId) :
    let r := (start config (World.start d tracker)).follow (answering ScriptedDevice.answer) schedule
    ∃ verdict, alone config d id = (some verdict, actsOf id r.world.trace) ∧
      ∀ o, r.aggregate.outcome? id = some o → o = recorded verdict := by
  intro r
  have row : (start config (World.start d tracker)).world.device.row (asked id) =
      ((d.only (asked id)).row (asked id)).remaining 0 := by
    rw [d.row_only, Script.remaining, Nat.zero_min, List.drop_zero]
    rfl
  have goal := (planOf_asks config id).forecast_eq_alone row
  have course : r.OnCourse id _ := (onCourse_start config (World.start d tracker) id).follow
    (sound_start config _) (orderly_start config _) (serves_answering id) schedule
  obtain ⟨verdict, reached, told⟩ := course.behind (not_awaits_of_isFinished finished id)
  rw [goal] at reached
  exact ⟨verdict, reached, fun o found => (told o found).trans (outcome_eq_recorded verdict)⟩

theorem outcome?_ended {id : ProbeId} (known : id ∈ tracker.order) :
    let r := (start config (World.start d tracker)).follow (answering ScriptedDevice.answer) schedule
    ∃ verdict, (alone config d id).1 = some verdict ∧
      r.aggregate.outcome? id = some (recorded verdict) := by
  intro r
  have sound : r.Sound tracker.order := (sound_start config (World.start d tracker)).follow _ schedule
  obtain ⟨o, found⟩ := sound.exists_outcome known
  obtain ⟨verdict, ran, told⟩ := ended_as_alone finished id
  exact ⟨verdict, congrArg Prod.fst ran, found.trans (congrArg some (told o found))⟩

theorem aggregate_eq_sequential :
    ((start config (World.start d tracker)).follow (answering ScriptedDevice.answer) schedule).aggregate
      = sequential config d tracker.order := by
  have sound := (sound_start config (World.start d tracker)).follow
    (answering ScriptedDevice.answer) schedule
  refine sound.aggregate.eq_of_outcomes (sound_sequential config d _)
    (sound.ids.trans (ids_sequential config d _).symm) fun id => ?_
  by_cases known : id ∈ tracker.order
  · obtain ⟨verdict, ran, found⟩ := outcome?_ended finished known
    rw [found, outcome?_sequential config d _ known ran]
  · have unknown : (sequential config d tracker.order).outcome? id = none := by
      rw [Option.eq_none_iff_forall_ne_some]
      intro o found
      have member := (Aggregate.mem_ids_iff _ id).mpr ⟨o, found⟩
      rw [ids_sequential, Aggregate.mem_firstOccurrences] at member
      exact known member
    rw [unknown]
    exact sound.outcome?_eq_none known

theorem failureSeen_ended :
    let r := (start config (World.start d tracker)).follow (answering ScriptedDevice.answer) schedule
    r.aggregate.failureSeen = true ↔
      ∃ id ∈ tracker.order, ∃ failure, (alone config d id).1 = some (.error failure) := by
  intro r
  have sound : r.Sound tracker.order := (sound_start config (World.start d tracker)).follow _ schedule
  rw [sound.aggregate.latch]
  constructor
  · rintro ⟨id, o, found, failed⟩
    have known : id ∈ tracker.order := by
      by_contra unknown
      rw [sound.outcome?_eq_none unknown] at found
      cases found
    obtain ⟨verdict, ran, found'⟩ := outcome?_ended finished known
    obtain rfl : o = recorded verdict := Option.some.inj (found.symm.trans found')
    cases verdict with
    | ok comment => cases failed
    | error failure => exact ⟨id, known, failure, ran⟩
  · rintro ⟨id, known, failure, ran⟩
    obtain ⟨verdict, ran', found⟩ := outcome?_ended finished known
    obtain rfl : .error failure = verdict := Option.some.inj (ran.symm.trans ran')
    exact ⟨id, _, found, by cases failure <;> rfl⟩

/-- Whatever is recorded of the acts of a run, it is recorded of the probes alone. -/
theorem acts_perm {α : Type} (f : Act → Option α) :
    let r := (start config (World.start d tracker)).follow (answering ScriptedDevice.answer) schedule
    (r.world.trace.filterMap fun event => f event.act).Perm
      (ProbeId.order.flatMap fun id => (alone config d id).2.filterMap f) := by
  intro r
  refine (filterMap_act_perm f r.world.trace).trans (.of_eq (List.flatMap_congr fun id _ => ?_))
  obtain ⟨verdict, same, -⟩ := ended_as_alone finished id
  rw [same]

theorem readLog_perm :
    let r := (start config (World.start d tracker)).follow (answering ScriptedDevice.answer) schedule
    r.world.device.readLog.Perm
      (d.readLog ++ ProbeId.order.flatMap fun id => (alone config d id).2.filterMap Act.param?) := by
  intro r
  have begun : (start config (World.start d tracker)).world.Logged d.readLog :=
    (List.append_nil _).symm
  have logged : r.world.Logged d.readLog := follow_logged (orderly_start config _) begun schedule
  rw [logged]
  exact (acts_perm finished Act.param?).append_left _

theorem delays_perm :
    let r := (start config (World.start d tracker)).follow (answering ScriptedDevice.answer) schedule
    r.world.delays.Perm
      (ProbeId.order.flatMap fun id => (alone config d id).2.filterMap Act.delay?) := by
  intro r
  rw [World.delays_eq]
  exact acts_perm finished Act.delay?

end Ended

/-- On a scripted device every fair schedule brings a run to its end, and at the end it is as if each
probe had run alone, on its own replies, and the outcomes had been recorded one after another: of each
probe the comment or the text of the failure, and that something failed if one of them did. So any two
schedules give the same aggregate, the same number of reads of each parameter, and the same delays up
to their order. -/
theorem ends_as_sequential (config : CheckConfig) (d : ScriptedDevice) (tracker : Tracker) :
    let start := start config (World.start d tracker)
    let ended (schedule : List Branch) := start.follow (answering ScriptedDevice.answer) schedule
    (∀ turns, Fair turns → ∃ n, ∀ m, n ≤ m →
        (start.stage (answering ScriptedDevice.answer) turns m).isFinished = true) ∧
      (∃ schedule, run (answering ScriptedDevice.answer) config (World.start d tracker) =
        ended schedule ∧ (ended schedule).isFinished = true) ∧
      (∀ schedule, (ended schedule).isFinished = true →
        (ended schedule).aggregate = sequential config d tracker.order ∧
        (∀ id ∈ tracker.order, ∃ verdict, (alone config d id).1 = some verdict ∧
          (ended schedule).aggregate.outcome? id = some (recorded verdict)) ∧
        ((ended schedule).aggregate.failureSeen = true ↔
          ∃ id ∈ tracker.order, ∃ failure, (alone config d id).1 = some (.error failure)) ∧
        (ended schedule).world.device.readLog.Perm
          (d.readLog ++ ProbeId.order.flatMap fun id =>
            (alone config d id).2.filterMap Act.param?) ∧
        (ended schedule).world.delays.Perm
          (ProbeId.order.flatMap fun id => (alone config d id).2.filterMap Act.delay?)) ∧
      ∀ first second, (ended first).isFinished = true → (ended second).isFinished = true →
        (ended first).aggregate = (ended second).aggregate ∧
        (∀ p, (ended first).world.device.readCount p = (ended second).world.device.readCount p) ∧
        (ended first).world.delays.Perm (ended second).world.delays := by
  intro start ended
  refine ⟨fun turns => (orderly_start config _).finishes (answers_answering _),
    exists_schedule_of_run (answers_answering _) config _,
    fun schedule finished => ⟨aggregate_eq_sequential finished,
      fun id known => outcome?_ended finished known, failureSeen_ended finished,
      readLog_perm finished, delays_perm finished⟩, ?_⟩
  intro first second endsFirst endsSecond
  exact ⟨(aggregate_eq_sequential endsFirst).trans (aggregate_eq_sequential endsSecond).symm,
    fun p => ((readLog_perm endsFirst).trans (readLog_perm endsSecond).symm).count_eq p,
    (delays_perm endsFirst).trans (delays_perm endsSecond).symm⟩

end Run
end Check
end ModulatorHealth
