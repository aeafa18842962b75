import ModulatorHealth.Proofs.RunEnd
import ModulatorHealth.Proofs.ScriptedRows

/-! The course of a probe on a scripted device: how it ends and what it does up to there. The probe
is the only one to use its row of replies, so the steps of the others, in between, do not change
its course. -/
namespace ModulatorHealth.Check

theorem asked_isQuery (id : ProbeId) : (asked id).isQuery = true := by
  cases id <;> rfl

/-- What a probe did, apart from what it saw. -/
inductive Act where
  | called (call : Call)
  | slept (milliseconds : Nat)

namespace Event

def probe : Event → ProbeId
  | .called id _ _ | .slept id _ => id

def act : Event → Act
  | .called _ call _ => .called call
  | .slept _ ms => .slept ms

end Event

def actsOf (id : ProbeId) (trace : List Event) : List Act :=
  (trace.filter fun event => event.probe = id).map Event.act

theorem actsOf_concat (id : ProbeId) (trace : List Event) (event : Event) :
    actsOf id (trace ++ [event]) =
      actsOf id trace ++ if event.probe = id then [event.act] else [] := by
  by_cases own : event.probe = id <;> simp [actsOf, own]

structure World.SameFor (id : ProbeId) (w w' : World ScriptedDevice) : Prop where
  row : w.device.row (asked id) = w'.device.row (asked id)
  acts : actsOf id w.trace = actsOf id w'.trace

/-- How the probe ends, and all it has done by then, if it goes on alone. -/
def forecast (id : ProbeId) (plan : Plan Verdict) (w : World ScriptedDevice) :
    Option Verdict × List Act :=
  let ended := plan.run (answering ScriptedDevice.answer) id w
  (ended.1, actsOf id ended.2.trace)

theorem forecast_call (id : ProbeId) (call : Call) (next : Reply call.Result → Plan Verdict)
    (w : World ScriptedDevice) :
    forecast id (.call call next) w =
      forecast id (next (ScriptedDevice.answer call w.device).1)
        { w.note (.called id call w.tracker.aggregate) with
          device := (ScriptedDevice.answer call w.device).2 } :=
  rfl

theorem forecast_sleep (id : ProbeId) (ms : Nat) (next : Plan Verdict) (w : World ScriptedDevice) :
    forecast id (.sleep ms next) w = forecast id next (w.note (.slept id ms)) :=
  rfl

theorem forecast_progress (id : ProbeId) (comment : String) (next : Plan Verdict)
    (w : World ScriptedDevice) :
    forecast id (.progress comment next) w = forecast id next (w.progress id comment) :=
  rfl

/-- By induction on the plan: its calls are all the question of the probe. -/
theorem Plan.Asks.forecast_congr {id : ProbeId} {plan : Plan Verdict} (asks : plan.Asks (asked id))
    {w w' : World ScriptedDevice} (same : w.SameFor id w') :
    forecast id plan w = forecast id plan w' := by
  induction plan generalizing w w' with
  | done verdict => simp [forecast, Plan.run, same.acts]
  | stalled => exact asks.elim
  | sleep ms next ih =>
    rw [forecast_sleep, forecast_sleep]
    refine ih asks ⟨same.row, ?_⟩
    simp [actsOf_concat, Event.act, same.acts]
  | progress comment next ih =>
    rw [forecast_progress, forecast_progress]
    exact ih asks ⟨by simpa using same.row, by simpa using same.acts⟩
  | call c next ih =>
    obtain ⟨rfl, asks⟩ := asks
    obtain ⟨reply, row⟩ := ScriptedDevice.answer_congr (asked_isQuery id) same.row
    rw [forecast_call, forecast_call, reply]
    refine ih _ (asks _) ⟨row, ?_⟩
    simp [actsOf_concat, Event.probe, Event.act, same.acts]

/-- The channel answers the question of the probe as the device does, and leaves its row alone when
the others ask. -/
structure Serves (channel : Channel ScriptedDevice) (id : ProbeId) : Prop where
  own : ∀ d, channel (asked id) d = answering ScriptedDevice.answer (asked id) d
  others : ∀ x, x ≠ id → ∀ d, (channel (asked x) d).2.row (asked id) = d.row (asked id)

theorem serves_answering (id : ProbeId) : Serves (answering ScriptedDevice.answer) id where
  own _ := rfl
  others x other d :=
    d.row_answer_of_ne (asked_isQuery x) fun same => other (asked_injective same).symm

theorem Serves.answers {channel : Channel ScriptedDevice} {id : ProbeId}
    (serves : Serves channel id) : Answers channel id :=
  fun d => ⟨_, _, serves.own d⟩

namespace Chain

variable {channel : Channel ScriptedDevice} {id : ProbeId} {chain : Chain}
  {w : World ScriptedDevice} {moved : Chain × World ScriptedDevice}

theorem ne_of_head?_ids {x : ProbeId} {plan : Plan Verdict} {rest : Chain}
    (other : (ids ((x, plan) :: rest)).head? ≠ some id) : id ≠ x :=
  fun same => other (congrArg some same.symm)

theorem Move.elsewhere (move : Move channel chain w moved) (orderly : chain.Orderly channel)
    (serves : Serves channel id) (other : chain.ids.head? ≠ some id) :
    moved.2.SameFor id w ∧ (∀ plan, (id, plan) ∈ moved.1 ↔ (id, plan) ∈ chain) ∧
      moved.2.tracker.aggregate.outcome? id = w.tracker.aggregate.outcome? id := by
  cases move with
  | idle | stalled => exact ⟨⟨rfl, rfl⟩, fun _ => Iff.rfl, rfl⟩
  | resolved x verdict rest w =>
    have ne := ne_of_head?_ids other
    refine ⟨⟨by simp, by simp⟩, fun plan => by simp [ne], ?_⟩
    rw [World.resolve_aggregate]
    exact Aggregate.outcome?_perform_of_ne _ _ ne
  | answered x call next rest w reply device answer =>
    have ne := ne_of_head?_ids other
    obtain ⟨⟨rfl, -⟩, -⟩ := orderly.of_cons (by simp)
    refine ⟨⟨?_, by simp [actsOf_concat, Event.probe, ne.symm]⟩, fun plan => by simp [ne], rfl⟩
    have row := serves.others x ne.symm w.device
    rwa [answer] at row
  | unanswered x call next rest w device silence =>
    have ne := ne_of_head?_ids other
    obtain ⟨⟨rfl, -⟩, -⟩ := orderly.of_cons (by simp)
    refine ⟨⟨?_, by simp [actsOf_concat, Event.probe, ne.symm]⟩, fun plan => by simp [ne], rfl⟩
    have row := serves.others x ne.symm w.device
    rwa [silence] at row
  | slept x ms next rest w =>
    have ne := ne_of_head?_ids other
    exact ⟨⟨rfl, by simp [actsOf_concat, Event.probe, ne.symm]⟩, fun plan => by simp [ne], rfl⟩
  | progressed x comment next rest w =>
    have ne := ne_of_head?_ids other
    refine ⟨⟨by simp, by simp⟩, fun plan => by simp [ne], ?_⟩
    rw [World.progress_aggregate]
    exact Aggregate.outcome?_perform_of_ne _ _ ne

theorem Move.onward {plan : Plan Verdict} {rest : Chain}
    (move : Move channel ((id, plan) :: rest) w moved)
    (orderly : Chain.Orderly channel ((id, plan) :: rest)) (serves : Serves channel id) :
    (∃ next, moved.1 = (id, next) :: rest ∧ forecast id next moved.2 = forecast id plan w) ∨
      ∃ verdict, moved.1 = rest ∧ moved.2 = w.resolve id verdict.outcome ∧
        forecast id plan w = (some verdict, actsOf id w.trace) := by
  cases move with
  | stalled => exact .inl ⟨_, rfl, rfl⟩
  | resolved _ verdict => exact .inr ⟨verdict, rfl, rfl, rfl⟩
  | answered _ call next rest w reply device answer =>
    obtain ⟨⟨rfl, -⟩, -⟩ := orderly.of_cons (by simp)
    rw [serves.own] at answer
    cases answer
    exact .inl ⟨_, rfl, rfl⟩
  | unanswered _ call next rest w device silence =>
    obtain ⟨⟨rfl, -⟩, -⟩ := orderly.of_cons (by simp)
    rw [serves.own] at silence
    cases silence
  | slept _ ms next => exact .inl ⟨next, rfl, rfl⟩
  | progressed _ comment next => exact .inl ⟨next, rfl, rfl⟩

end Chain

namespace Run

/-- The probe is on its way to this end, or has come to it. -/
structure OnCourse (id : ProbeId) (goal : Option Verdict × List Act) (r : Run ScriptedDevice) :
    Prop where
  ahead : ∀ part plan, (id, plan) ∈ r.chain part → forecast id plan r.world = goal
  behind : ¬ r.Awaits id → ∃ verdict, goal = (some verdict, actsOf id r.world.trace) ∧
    ∀ o, r.aggregate.outcome? id = some o → o = verdict.outcome

section OnCourse

variable {channel : Channel ScriptedDevice} {order : List ProbeId} {id : ProbeId}
  {goal : Option Verdict × List Act} {r : Run ScriptedDevice} {part : Part}
  {moved : Chain × World ScriptedDevice}

theorem onCourse_start (config : CheckConfig) (w : World ScriptedDevice) (id : ProbeId) :
    (start config w).OnCourse id (forecast id (planOf config id) (start config w).world) where
  ahead part plan member := by
    have planned : plan = planOf config id := by
      cases part <;> obtain ⟨x, -, same⟩ := List.mem_map.mp member <;> cases same <;> rfl
    rw [planned]
  behind passed := absurd (awaits_start config w id) passed

theorem OnCourse.put_elsewhere (course : r.OnCourse id goal) (orderly : r.Orderly channel)
    (serves : Serves channel id) (move : Chain.Move channel (r.chain part) r.world moved)
    (other : (r.chain part).ids.head? ≠ some id) : (r.put part moved).OnCourse id goal := by
  obtain ⟨same, members, outcome⟩ := move.elsewhere (orderly part) serves other
  have kept : ∀ p plan, (id, plan) ∈ (r.put part moved).chain p ↔ (id, plan) ∈ r.chain p := by
    intro p plan
    by_cases here : p = part
    · subst here
      rw [put_chain]
      exact members plan
    · rw [put_chain_of_ne r moved here]
  constructor
  · intro p plan member
    have before := (kept p plan).mp member
    rw [put_world, ← course.ahead p plan before]
    exact Plan.Asks.forecast_congr ((orderly p).asks before serves.answers) same
  · intro passed
    obtain ⟨verdict, reached, recorded⟩ := course.behind fun awaited => by
      obtain ⟨⟨_, plan⟩, member, rfl⟩ := List.mem_map.mp awaited
      exact passed (List.mem_map_of_mem ((kept _ plan).mpr member))
    refine ⟨verdict, by rw [put_world, same.acts]; exact reached, fun o found => ?_⟩
    rw [Run.aggregate, put_world, outcome] at found
    exact recorded o found

theorem OnCourse.put_head (course : r.OnCourse id goal) (sound : r.Sound order)
    (orderly : r.Orderly channel) (serves : Serves channel id)
    (move : Chain.Move channel (r.chain part) r.world moved) {plan : Plan Verdict} {rest : Chain}
    (here : r.chain part = (id, plan) :: rest) : (r.put part moved).OnCourse id goal := by
  have member : id ∈ (r.chain part).ids := by simp [here, Chain.ids]
  have of_id : Part.of id = part := sound.part_of_mem member
  have fresh : id ∉ rest.ids := by
    have nodup := sound.nodup part
    rw [here] at nodup
    exact (List.nodup_cons.mp nodup).1
  have only_here : ∀ p next, (id, next) ∈ (r.put part moved).chain p → (id, next) ∈ moved.1 := by
    intro p next member
    have same : Part.of id = p := (sound.put move).part_of_mem (List.mem_map_of_mem member)
    rwa [← same, of_id, put_chain] at member
  have goal_eq : forecast id plan r.world = goal := course.ahead part plan (by simp [here])
  rw [here] at move
  rcases move.onward (here ▸ orderly part) serves with ⟨next, chain, onward⟩ |
    ⟨verdict, chain, ended, reached⟩
  · refine ⟨fun p plan' member => ?_, fun passed => ?_⟩
    · have member := only_here p plan' member
      rw [chain, List.mem_cons] at member
      rcases member with same | behind
      · cases same
        rw [put_world, onward, goal_eq]
      · exact absurd (List.mem_map_of_mem behind) fresh
    · refine absurd ?_ passed
      rw [awaits_put, if_pos of_id, chain]
      simp [Chain.ids]
  · refine ⟨fun p plan' member => ?_, fun _ => ⟨verdict, ?_, fun o found => ?_⟩⟩
    · have member := only_here p plan' member
      rw [chain] at member
      exact absurd (List.mem_map_of_mem member) fresh
    · rw [put_world, ended, World.resolve_trace, ← goal_eq, reached]
    · rw [Run.aggregate, put_world, ended, World.resolve_aggregate] at found
      exact sound.outcome_of_perform (c := .resolve id verdict.outcome)
        (sound.awaits_of_mem member) found

theorem OnCourse.step (course : r.OnCourse id goal) (sound : r.Sound order)
    (orderly : r.Orderly channel) (serves : Serves channel id) (branch : Branch) :
    (r.step channel branch).OnCourse id goal := by
  rw [step_eq]
  have move := Chain.step_move channel (r.chain (r.turn branch)) r.world
  cases here : r.chain (r.turn branch) with
  | nil => exact course.put_elsewhere orderly serves (here ▸ move) (by simp [here, Chain.ids])
  | cons probe rest =>
    obtain ⟨x, plan⟩ := probe
    by_cases own : x = id
    · subst own
      exact course.put_head sound orderly serves (here ▸ move) here
    · exact course.put_elsewhere orderly serves (here ▸ move) (by simp [here, Chain.ids, own])

theorem OnCourse.follow (course : r.OnCourse id goal) (sound : r.Sound order)
    (orderly : r.Orderly channel) (serves : Serves channel id) (schedule : List Branch) :
    (r.follow channel schedule).OnCourse id goal := by
  refine (follow_induction (P := fun r => r.OnCourse id goal ∧ r.Sound order ∧ r.Orderly channel) ?_
    schedule ⟨course, sound, orderly⟩).1
  rintro branch r ⟨course, sound, orderly⟩
  exact ⟨course.step sound orderly serves branch, sound.step channel branch, orderly.step branch⟩

end OnCourse

end Run
end ModulatorHealth.Check
