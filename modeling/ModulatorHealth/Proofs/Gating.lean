import ModulatorHealth.Proofs.ProbeCourses
import Mathlib.Data.List.Infix

/-! What waits for what in a run. Each probe but the first waits for one other, its gate, and asks
nothing before that is terminal. The late packets are the gate of no probe: with their chain stopped
for ever, the other one goes on to its end. -/
namespace ModulatorHealth.Check

/-- The probe that this one waits for. -/
def gate? : ProbeId → Option ProbeId
  | .rcReachable => none
  | .modulating => some .rcReachable
  | .gpsdoQuality => some .modulating
  | .underruns | .latePackets => some .gpsdoQuality
  | .sampleRate => some .underruns
  | .dpdEngine => some .sampleRate

theorem gate?_off_chain :
    ∀ part : Part, ∀ ids ∈ part.probes.tails, ∀ id ∈ ids.head?, ∀ gate ∈ gate? id,
      gate ∉ ids ∧ (Part.of gate = part ∨ Part.of gate = .gate) := by
  intro part
  cases part <;> decide

theorem Chain.Move.called {σ : Type} {channel : Channel σ} {chain : Chain} {w : World σ}
    {moved : Chain × World σ} (move : Move channel chain w moved) (orderly : chain.Orderly channel)
    {id : ProbeId} {call : Call} {seen : Aggregate}
    (member : Event.called id call seen ∈ moved.2.trace) :
    Event.called id call seen ∈ w.trace ∨
      chain.ids.head? = some id ∧ call = asked id ∧ seen = w.tracker.aggregate := by
  cases move with
  | idle | stalled => exact .inl member
  | resolved | progressed | slept => exact .inl (by simpa using member)
  | answered x c next rest w reply device answer | unanswered x c next rest w device silence =>
    obtain ⟨⟨asks, -⟩, -⟩ := orderly.of_cons (by simp)
    simp only [World.note_trace, List.mem_append, List.mem_singleton] at member
    rcases member with old | new
    · exact .inl old
    · cases new
      exact .inr ⟨rfl, asks, rfl⟩

namespace Run

section Requests

variable {σ : Type} {channel : Channel σ} {order : List ProbeId} {r : Run σ}

theorem Sound.gate_open (sound : r.Sound order) {branch : Branch} {id gate : ProbeId}
    (head : (r.chain (r.turn branch)).ids.head? = some id) (waits : gate? id = some gate) :
    ¬ r.Awaits gate := by
  obtain ⟨off, same | gating⟩ := gate?_off_chain (r.turn branch) _
    ((List.mem_tails _ _).mpr (sound.suffix _)) id head gate waits
  · rwa [Awaits, same]
  · by_cases ended : r.chain .gate = []
    · exact not_awaits_of_chain_eq_nil (gating ▸ ended)
    · rwa [Awaits, gating, ← turn_eq_gate ended]

/-- Every request so far was the question of its probe, made when the gate of the probe was
terminal. -/
def Gated (order : List ProbeId) (trace : List Event) : Prop :=
  ∀ id call seen, Event.called id call seen ∈ trace → call = asked id ∧
    ∀ gate, gate? id = some gate → gate ∈ order →
      ∃ o, seen.outcome? gate = some o ∧ o.isTerminal = true

theorem Sound.step_gated (sound : r.Sound order) (orderly : r.Orderly channel)
    (gated : Gated order r.world.trace) (branch : Branch) :
    Gated order (r.step channel branch).world.trace := by
  intro id call seen member
  rw [step_eq, put_world] at member
  rcases (Chain.step_move channel _ r.world).called (orderly _) member with
    before | ⟨head, asks, rfl⟩
  · exact gated id call seen before
  · refine ⟨asks, fun gate waits known => ?_⟩
    obtain ⟨o, found⟩ := sound.exists_outcome known
    refine ⟨o, found, ?_⟩
    by_contra pending
    exact sound.gate_open head waits ((sound.pending_iff gate o found).mp (by simpa using pending))

theorem Sound.follow_gated (sound : r.Sound order) (orderly : r.Orderly channel)
    (gated : Gated order r.world.trace) (schedule : List Branch) :
    Gated order (r.follow channel schedule).world.trace := by
  refine (follow_induction
    (P := fun r => Gated order r.world.trace ∧ r.Sound order ∧ r.Orderly channel) ?_ schedule
    ⟨gated, sound, orderly⟩).1
  rintro branch r ⟨gated, sound, orderly⟩
  exact ⟨sound.step_gated orderly gated branch, sound.step channel branch, orderly.step branch⟩

end Requests

end Run

/-- The scripted device, if it may leave reads of the late packets without an answer. -/
def muted (silent : ScriptedDevice → Bool) : Channel ScriptedDevice
  | .read p, d =>
    if p = ⟨"sdr", "latepackets"⟩ ∧ silent d = true then (none, d)
    else answering ScriptedDevice.answer (.read p) d
  | call, d => answering ScriptedDevice.answer call d

theorem muted_asked (silent : ScriptedDevice → Bool) {id : ProbeId} (other : id ≠ .latePackets)
    (d : ScriptedDevice) :
    muted silent (asked id) d = answering ScriptedDevice.answer (asked id) d := by
  cases id with
  | latePackets => exact absurd rfl other
  | _ => simp [muted, asked, frames]

theorem serves_muted (silent : ScriptedDevice → Bool) {id : ProbeId} (other : id ≠ .latePackets) :
    Serves (muted silent) id where
  own := muted_asked silent other
  others x ne d := by
    by_cases late : x = .latePackets
    · subst late
      by_cases quiet : silent d = true
      · simp [muted, asked, quiet]
      · have same : muted silent (asked .latePackets) d =
            answering ScriptedDevice.answer (asked .latePackets) d := by simp [muted, asked, quiet]
        rw [same]
        exact (serves_answering id).others _ ne d
    · rw [muted_asked silent late]
      exact (serves_answering id).others x ne d

namespace Run

section Abandoned

variable {channel : Channel ScriptedDevice} {order : List ProbeId} {r : Run ScriptedDevice}

theorem Sound.gate_eq_nil {σ : Type} {r : Run σ} (sound : r.Sound order)
    (passed : ¬ r.Awaits .gpsdoQuality) : r.chain .gate = [] := by
  have last : ∀ ids ∈ gatingProbes.tails, .gpsdoQuality ∉ ids → ids = [] := by decide
  exact List.map_eq_nil_iff.mp (last _ ((List.mem_tails _ _).mpr (sound.suffix .gate)) passed)

theorem OnCourse.outcome?_eq {r' : Run ScriptedDevice} {id : ProbeId}
    {goal : Option Verdict × List Act} (course : r.OnCourse id goal) (course' : r'.OnCourse id goal)
    (sound : r.Sound order) (sound' : r'.Sound order) (passed : ¬ r.Awaits id)
    (passed' : ¬ r'.Awaits id) : r.aggregate.outcome? id = r'.aggregate.outcome? id := by
  by_cases known : id ∈ order
  · obtain ⟨o, found⟩ := sound.exists_outcome known
    obtain ⟨o', found'⟩ := sound'.exists_outcome known
    obtain ⟨verdict, reached, recorded⟩ := course.behind passed
    obtain ⟨verdict', reached', recorded'⟩ := course'.behind passed'
    have same : verdict = verdict' := by
      rw [reached] at reached'
      exact Option.some.inj (congrArg Prod.fst reached')
    rw [found, found', recorded o found, recorded' o' found', same]
  · rw [sound.outcome?_eq_none known, sound'.outcome?_eq_none known]

theorem outcome?_eq_of_serves {config : CheckConfig} {w : World ScriptedDevice}
    {channel' : Channel ScriptedDevice} {id : ProbeId} (serves : Serves channel id)
    (serves' : Serves channel' id) {schedule schedule' : List Branch}
    (passed : ¬ ((start config w).follow channel schedule).Awaits id)
    (passed' : ¬ ((start config w).follow channel' schedule').Awaits id) :
    ((start config w).follow channel schedule).aggregate.outcome? id =
      ((start config w).follow channel' schedule').aggregate.outcome? id := by
  have begun := sound_start config w
  have course := onCourse_start config w id
  exact (course.follow begun (orderly_start config w) serves schedule).outcome?_eq
    (course.follow begun (orderly_start config w) serves' schedule')
    (begun.follow channel schedule) (begun.follow channel' schedule') passed passed'

theorem stage_chain_of_part_ne {σ : Type} (channel : Channel σ) (r : Run σ) (branch : Branch)
    {part : Part} (later : part ≠ .gate) (other : part ≠ branch.part) (n : Nat) :
    (r.stage channel (fun _ => branch) n).chain part = r.chain part := by
  induction n with
  | zero => rfl
  | succ n ih =>
    rw [stage_chain_succ_of_ne, ih]
    by_cases ended : (r.stage channel (fun _ => branch) n).chain .gate = []
    · rw [turn_eq_part branch ended]
      exact other.symm
    · rw [turn_eq_gate ended]
      exact later.symm

theorem stage_const {σ : Type} (channel : Channel σ) (r : Run σ) (branch : Branch) (n : Nat) :
    r.stage channel (fun _ => branch) n = r.follow channel (List.replicate n branch) := by
  simp [stage]

theorem follow_main_late {σ : Type} (channel : Channel σ) (r : Run σ) (n : Nat) :
    (r.follow channel (List.replicate n .main)).late = r.late := by
  rw [← stage_const]
  have later : Part.late ≠ .gate := by decide
  exact stage_chain_of_part_ne channel r .main later (by decide) n

theorem exists_chain_eq_nil (sound : r.Sound order) (orderly : r.Orderly channel) {branch : Branch}
    {part : Part} (served : r.Served channel (fun _ => branch) part)
    (serves : ∀ id ∈ part.probes, Serves channel id) :
    ∃ n, (r.follow channel (List.replicate n branch)).chain part = [] := by
  obtain ⟨n, ended⟩ := served.ends_of_orderly (orderly part) fun id member =>
    (serves id ((sound.suffix part).subset member)).answers
  rw [stage_const] at ended
  exact ⟨n, ended⟩

theorem served_main (channel : Channel ScriptedDevice) (ended : r.chain .gate = []) :
    r.Served channel (fun _ => .main) .main :=
  served_branch (n := 0) ended .main fun n => ⟨n, Nat.le_refl n, rfl⟩

theorem Sound.overall_ne_ok (sound : r.Sound order) {id : ProbeId} (awaited : r.Awaits id)
    (known : id ∈ order) : r.aggregate.overall ≠ .ok := by
  intro ok
  obtain ⟨o, found, pending⟩ := sound.exists_pending awaited known
  have member := (Aggregate.outcome?_eq_some_iff sound.aggregate.nodup id o).mp found
  have fine := Outcome.isTerminal_of_isOk (sound.aggregate.overall_eq_ok_iff.mp ok _ member)
  rw [pending] at fine
  cases fine

end Abandoned

/-- At each moment of a run every request so far came after the gate of its probe was terminal, on
any device. And on a scripted one there comes a moment after the gating probes at which the late
packets are still to come, and from any such moment turns of the other chain alone bring it to its
end, with the outcomes that a whole run gives; the late packets stay pending, and the overall status
is not ok. -/
theorem waits_for_gates_only (config : CheckConfig) (tracker : Tracker) :
    (∀ (σ : Type) (channel : Channel σ) (device : σ) (schedule : List Branch),
      Gated tracker.order
        ((start config (World.start device tracker)).follow channel schedule).world.trace) ∧
    ∀ (d : ScriptedDevice) (silent : ScriptedDevice → Bool) (schedule : List Branch),
      let start := start config (World.start d tracker)
      let r := start.follow (muted silent) schedule
      (∀ id o, r.aggregate.outcome? id = some o → (o.isTerminal = false ↔ r.Awaits id)) ∧
      (∃ n, ¬ (start.follow (muted silent) (List.replicate n .main)).Awaits .gpsdoQuality ∧
        (start.follow (muted silent) (List.replicate n .main)).Awaits .latePackets) ∧
      (¬ r.Awaits .gpsdoQuality → r.Awaits .latePackets →
        ∃ n,
          let r' := r.follow (muted silent) (List.replicate n .main)
          r'.main = [] ∧ r'.late = r.late ∧
          (∀ schedule,
            let whole := start.follow (answering ScriptedDevice.answer) schedule
            whole.isFinished = true →
              ∀ id ∈ mainProbes, r'.aggregate.outcome? id = whole.aggregate.outcome? id) ∧
          (.latePackets ∈ tracker.order →
            (∃ o, r'.aggregate.outcome? .latePackets = some o ∧ o.isTerminal = false) ∧
            r'.aggregate.overall ≠ .ok)) := by
  constructor
  · intro σ channel device schedule
    have gated : Gated tracker.order (start config (World.start device tracker)).world.trace :=
      fun id call seen member => by cases member
    exact (sound_start config _).follow_gated (orderly_start config _) gated schedule
  · intro d silent schedule start r
    have begun : start.Sound tracker.order := sound_start config (World.start d tracker)
    have orderly : r.Orderly (muted silent) := (orderly_start config _).follow schedule
    have sound : r.Sound tracker.order := begun.follow (muted silent) schedule
    have serves : ∀ id, id ≠ .latePackets → Serves (muted silent) id := fun _ => serves_muted silent
    refine ⟨sound.pending_iff, ?_, fun passed awaited => ?_⟩
    · obtain ⟨n, gate⟩ := exists_chain_eq_nil begun (orderly_start config _) served_gate
        fun id member => serves id fun same => absurd (same ▸ member) (by decide)
      refine ⟨n, not_awaits_of_chain_eq_nil gate, ?_⟩
      change ProbeId.latePackets ∈ Chain.ids (Run.late _)
      rw [follow_main_late]
      exact awaits_start config _ .latePackets
    · have serves_main : ∀ id ∈ mainProbes, Serves (muted silent) id := fun id member =>
        serves id fun same => absurd (same ▸ member) (by decide)
      have served := served_main (muted silent) (sound.gate_eq_nil passed)
      obtain ⟨n, main⟩ := exists_chain_eq_nil sound orderly served serves_main
      have late := follow_main_late (muted silent) r n
      refine ⟨n, main, late, ?_, fun known => ?_⟩
      · intro schedule' whole finished id member
        have of_main := (Part.mem_probes_iff .main id).mp member
        have passed : ¬ (r.follow (muted silent) (List.replicate n .main)).Awaits id :=
          not_awaits_of_chain_eq_nil (of_main ▸ main)
        rw [← follow_append] at passed ⊢
        exact outcome?_eq_of_serves (serves_main id member) (serves_answering id) passed
          (not_awaits_of_isFinished finished id)
      · have later := sound.follow (muted silent) (List.replicate n .main)
        have still : (r.follow (muted silent) (List.replicate n .main)).Awaits .latePackets := by
          change ProbeId.latePackets ∈ Chain.ids (Run.late _)
          rw [late]
          exact awaited
        exact ⟨later.exists_pending still known, later.overall_ne_ok still known⟩

end Run
end ModulatorHealth.Check
