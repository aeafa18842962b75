import ModulatorHealth.Proofs.RunEnd
import ModulatorHealth.Proofs.RunSchedule

/-! What a run has done when it ends: each probe was resolved once, nothing it asked of its tracker
was refused, and the log tells the outcomes and nothing else. -/
namespace ModulatorHealth

open Aggregate (Change)

def Aggregate.Change.event? : Change → Option Log.Event
  | .setProgress _ _ => none
  | .resolve id outcome => some (Tracker.outcomeEvent id outcome)
  | .markOk id comment => some (Tracker.outcomeEvent id (.ok comment))
  | .markFail id reason => some (Tracker.outcomeEvent id (.fail reason))

def Log.Event.IsRefusal (event : Log.Event) : Prop :=
  "Outcome not recorded: ".toList <+: event.message.toList ∨
    "Dropping progress update: ".toList <+: event.message.toList

theorem Tracker.not_isRefusal_outcomeEvent (id : ProbeId) (o : Outcome) :
    ¬ (Tracker.outcomeEvent id o).IsRefusal := by
  rintro (⟨rest, same⟩ | ⟨rest, same⟩)
  all_goals
    cases o <;> simp [Tracker.outcomeEvent, Outcome.label] at same

theorem Aggregate.Change.not_isRefusal_of_event?_eq_some {c : Change} {event : Log.Event}
    (logged : c.event? = some event) : ¬ event.IsRefusal := by
  cases c <;> cases logged <;> exact Tracker.not_isRefusal_outcomeEvent _ _

namespace Check

namespace Chain

variable {σ : Type} {channel : Channel σ} {chain : Chain} {w : World σ} {moved : Chain × World σ}

theorem probe_mem_ids {c : Change} (next : chain.change? = some c) : c.probe ∈ chain.ids := by
  unfold change? at next
  split at next
  · cases next
    exact List.mem_cons_self
  · cases next
    exact List.mem_cons_self
  · cases next

theorem Move.log (move : Move channel chain w moved)
    (accepted : ∀ c, chain.change? = some c → ∃ a, c.apply w.tracker.aggregate = .ok a) :
    moved.2.log = w.log ++ chain.change?.toList.filterMap Change.event? := by
  cases move with
  | resolved id verdict rest =>
    obtain ⟨a, accepted⟩ := accepted _ rfl
    simpa [change?, Change.event?] using w.resolve_log id accepted
  | progressed id comment next rest =>
    obtain ⟨a, accepted⟩ := accepted _ rfl
    simpa [change?, List.filterMap_cons, Change.event?] using w.progress_log id accepted
  | idle | stalled | answered | unanswered | slept => simp [change?]

end Chain

namespace Run

variable {σ : Type} {channel : Channel σ} {order : List ProbeId}

section Step

variable {r : Run σ} (sound : r.Sound order)
include sound

theorem Sound.accepts {c : Change} (awaited : r.Awaits c.probe) (known : c.probe ∈ order) :
    ∃ a, c.apply r.aggregate = .ok a := by
  obtain ⟨old, found, pending⟩ := sound.exists_pending awaited known
  cases applied : c.apply r.aggregate with
  | ok a => exact ⟨a, rfl⟩
  | error e =>
    have closed := (Aggregate.refused_iff r.aggregate c).mp ⟨e, applied⟩ old found
    rw [pending] at closed
    cases closed

theorem Sound.accepts_change (full : ∀ id, id ∈ order) {part : Part} {c : Change}
    (next : (r.chain part).change? = some c) : ∃ a, c.apply r.aggregate = .ok a :=
  sound.accepts (sound.awaits_of_mem (Chain.probe_mem_ids next)) (full c.probe)

theorem Sound.step_log (full : ∀ id, id ∈ order) (branch : Branch) :
    (r.step channel branch).world.log =
      r.world.log ++ (r.chain (r.turn branch)).change?.toList.filterMap Change.event? := by
  rw [step_eq, put_world]
  exact (Chain.step_move channel _ r.world).log fun c next => sound.accepts_change full next

/-- A step that resolves a probe is the one after which it is no longer awaited. -/
theorem Sound.countP_change (channel : Channel σ) (branch : Branch) (id : ProbeId) :
    (r.chain (r.turn branch)).change?.toList.countP (·.resolves id)
        + (if (r.step channel branch).Awaits id then 1 else 0) =
      if r.Awaits id then 1 else 0 := by
  rw [step_eq]
  rcases (Chain.step_move channel (r.chain (r.turn branch)) r.world).effect with
    ⟨same, quiet⟩ | ⟨x, comment, -, same, next⟩ | ⟨x, o, -, cons, next⟩
  · simp only [quiet, awaits_put_of_ids_eq same]
    simp
  · simp only [next, awaits_put_of_ids_eq same]
    simp [Change.resolves]
  · have member : x ∈ (r.chain (r.turn branch)).ids := by simp [cons]
    have awaited := sound.awaits_of_mem member
    simp only [next, awaits_put_of_ids_cons sound cons]
    by_cases equal : x = id
    · subst equal
      simp [Change.resolves, awaited]
    · simp [Change.resolves, equal, Ne.symm equal]

end Step

section Follow

variable {r : Run σ} (sound : r.Sound order) (schedule : List Branch)
include sound

theorem Sound.countP_changes (channel : Channel σ) (id : ProbeId) :
    (r.changes channel schedule).countP (·.resolves id)
        + (if (r.follow channel schedule).Awaits id then 1 else 0) =
      if r.Awaits id then 1 else 0 := by
  induction schedule generalizing r with
  | nil => exact Nat.zero_add _
  | cons branch rest ih =>
    have first := sound.countP_change channel branch id
    have later := ih (sound.step channel branch)
    rw [changes, List.countP_append, follow_cons]
    omega

theorem Sound.follow_log (full : ∀ id, id ∈ order) :
    (r.follow channel schedule).world.log =
      r.world.log ++ (r.changes channel schedule).filterMap Change.event? := by
  induction schedule generalizing r with
  | nil => simp [changes]
  | cons branch rest ih =>
    rw [follow_cons, ih (sound.step channel branch), sound.step_log full, changes, List.filterMap_append,
      List.append_assoc]

theorem Sound.answers_changes (full : ∀ id, id ∈ order) :
    ∀ answer ∈ r.aggregate.answers (r.changes channel schedule), answer = .ok () := by
  induction schedule generalizing r with
  | nil => simp [changes, Aggregate.answers]
  | cons branch rest ih =>
    have later := ih (sound.step channel branch)
    rw [step_aggregate] at later
    intro answer member
    rw [changes, Aggregate.answers_append, List.mem_append] at member
    rcases member with member | member
    · cases next : (r.chain (r.turn branch)).change? with
      | none => simp [next, Aggregate.answers] at member
      | some c =>
        obtain ⟨a, accepted⟩ := sound.accepts_change full next
        simpa [next, Aggregate.answers, accepted, Except.map] using member
    · exact later answer member

theorem Sound.isComplete_of_isFinished (finished : r.isFinished = true) :
    r.aggregate.isComplete = true := by
  refine (Aggregate.isComplete_iff _).mpr fun entry member => ?_
  have found := (Aggregate.outcome?_eq_some_iff sound.aggregate.nodup entry.id entry.outcome).mpr
    member
  by_contra pending
  have awaited := (sound.pending_iff _ _ found).mp (by simpa using pending)
  exact not_awaits_of_isFinished finished _ awaited

theorem Sound.countP_changes_of_isFinished
    (finished : (r.follow channel schedule).isFinished = true) {id : ProbeId} (awaited : r.Awaits id) :
    (r.changes channel schedule).countP (·.resolves id) = 1 := by
  have counted := sound.countP_changes schedule channel id
  rwa [if_pos awaited, if_neg (not_awaits_of_isFinished finished id), Nat.add_zero] at counted

end Follow

/-- A run on a device that answers every call comes to its end under every fair schedule. Whenever it
ends, each probe was resolved by one call, every call was accepted, the log says so and warns of
nothing, and the overall status is settled. -/
theorem resolves_each_probe_once (client : Client σ) (device : σ) (config : CheckConfig) :
    let start := start config (World.start device .new)
    (∀ turns, Fair turns →
        ∃ n, ∀ m, n ≤ m → (start.stage (answering client) turns m).isFinished = true) ∧
      (∃ schedule, run (answering client) config (World.start device .new) =
          start.follow (answering client) schedule ∧
        (start.follow (answering client) schedule).isFinished = true) ∧
      ∀ schedule,
        let r := start.follow (answering client) schedule
        let changes := start.changes (answering client) schedule
        r.isFinished = true →
          r.aggregate.ids = ProbeId.order ∧
          (∀ entry ∈ r.aggregate.entries, entry.outcome.isTerminal = true) ∧
          r.aggregate = Aggregate.standard.after changes ∧
          (∀ answer ∈ Aggregate.standard.answers changes, answer = .ok ()) ∧
          (∀ id, changes.countP (·.resolves id) = 1) ∧
          r.close.log = ⟨.info, [], "Health check started"⟩ ::
            changes.filterMap Change.event? ++ [closingEvent r.aggregate] ∧
          (∀ event ∈ r.close.log, ¬ event.IsRefusal) ∧
          r.aggregate.counts.pending = 0 ∧
          r.aggregate.overall =
            if ∀ entry ∈ r.aggregate.entries, entry.outcome.isOk = true then .ok else .degraded := by
  intro start
  have sound : start.Sound ProbeId.order := sound_start config (World.start device .new)
  refine ⟨fun turns => (orderly_start config _).finishes (answers_answering client),
    exists_schedule_of_run (answers_answering client) config _, ?_⟩
  · intro schedule r changes finished
    have ended : r.Sound ProbeId.order := sound.follow _ schedule
    have complete := ended.isComplete_of_isFinished finished
    have log : r.close.log = ⟨.info, [], "Health check started"⟩ ::
        changes.filterMap Change.event? ++ [closingEvent r.aggregate] := by
      simp only [close, finished, if_true, World.write, r, sound.follow_log schedule ProbeId.mem_order]
      rfl
    refine ⟨ended.ids, (Aggregate.isComplete_iff _).mp complete, follow_aggregate _ _ _,
      sound.answers_changes schedule ProbeId.mem_order, fun id => ?_, log, ?_,
      (Aggregate.isComplete_iff_pending _).mp complete,
      ended.aggregate.overall_of_isComplete complete⟩
    · exact sound.countP_changes_of_isFinished schedule finished (awaits_start config _ id)
    · intro event member
      simp only [log, List.mem_append, List.mem_cons, List.mem_filterMap, List.not_mem_nil, or_false]
        at member
      rcases member with (rfl | ⟨c, -, logged⟩) | rfl
      · simp [Log.Event.IsRefusal]
      · exact c.not_isRefusal_of_event?_eq_some logged
      · simp [Log.Event.IsRefusal, closingEvent]

end Run
end Check
end ModulatorHealth
