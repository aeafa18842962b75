import ModulatorHealth.Check.Run
import ModulatorHealth.Proofs.AggregateHistory

/-! One step of a run, for all its chains at once. A step moves the head of one chain, and a
schedule is a sequence of such moves; what a move asks of the aggregate is a call of its history. -/
namespace ModulatorHealth.Check

open Aggregate (Change)

namespace World

variable {σ : Type} (w : World σ) (id : ProbeId)

@[simp] theorem note_device (e : Event) : (w.note e).device = w.device := rfl
@[simp] theorem note_tracker (e : Event) : (w.note e).tracker = w.tracker := rfl
@[simp] theorem note_log (e : Event) : (w.note e).log = w.log := rfl
@[simp] theorem note_trace (e : Event) : (w.note e).trace = w.trace ++ [e] := rfl

@[simp] theorem progress_device (comment : String) : (w.progress id comment).device = w.device := rfl
@[simp] theorem progress_trace (comment : String) : (w.progress id comment).trace = w.trace := rfl

@[simp] theorem progress_aggregate (comment : String) :
    (w.progress id comment).tracker.aggregate =
      w.tracker.aggregate.perform (.setProgress id comment) := by
  simp only [World.progress, Tracker.progress, Aggregate.perform, Change.apply, World.write]
  cases w.tracker.aggregate.setProgress id comment <;> rfl

@[simp] theorem resolve_device (o : Outcome) : (w.resolve id o).device = w.device := by
  unfold World.resolve
  split <;> rfl

@[simp] theorem resolve_trace (o : Outcome) : (w.resolve id o).trace = w.trace := by
  unfold World.resolve
  split <;> rfl

@[simp] theorem resolve_aggregate (o : Outcome) :
    (w.resolve id o).tracker.aggregate = w.tracker.aggregate.perform (.resolve id o) := by
  simp only [World.resolve, Tracker.resolve, Aggregate.perform, Change.apply]
  cases w.tracker.aggregate.resolve id o <;> rfl

theorem progress_log {comment : String} {a : Aggregate}
    (accepted : w.tracker.aggregate.setProgress id comment = .ok a) :
    (w.progress id comment).log = w.log := by
  simp [World.progress, Tracker.progress, World.write, accepted]

theorem resolve_log {o : Outcome} {a : Aggregate}
    (accepted : w.tracker.aggregate.resolve id o = .ok a) :
    (w.resolve id o).log = w.log ++ [Tracker.outcomeEvent id o] := by
  simp [World.resolve, Tracker.resolve, World.write, accepted, Except.map]

end World

/-- The chains of a run: the gating probes, and the two that go on side by side. -/
inductive Part where
  | gate
  | late
  | main
deriving DecidableEq

namespace Part

def probes : Part → List ProbeId
  | .gate => gatingProbes
  | .late => lateProbes
  | .main => mainProbes

def of : ProbeId → Part
  | .rcReachable | .modulating | .gpsdoQuality => .gate
  | .latePackets => .late
  | .underruns | .sampleRate | .dpdEngine => .main

theorem mem_probes_iff (part : Part) (id : ProbeId) : id ∈ part.probes ↔ of id = part := by
  cases part <;> cases id <;> decide

theorem nodup_probes (part : Part) : part.probes.Nodup := by
  cases part <;> decide

end Part

def Branch.part : Branch → Part
  | .late => .late
  | .main => .main

namespace Chain

variable {σ : Type}

def ids (chain : Chain) : List ProbeId := chain.map Prod.fst

/-- What one step can do to a chain and the world. -/
inductive Move (channel : Channel σ) : Chain → World σ → Chain × World σ → Prop where
  | idle (w : World σ) : Move channel [] w ([], w)
  | stalled (id : ProbeId) (rest : Chain) (w : World σ) :
      Move channel ((id, .stalled) :: rest) w ((id, .stalled) :: rest, w)
  | resolved (id : ProbeId) (verdict : Verdict) (rest : Chain) (w : World σ) :
      Move channel ((id, .done verdict) :: rest) w (rest, w.resolve id verdict.outcome)
  | answered (id : ProbeId) (call : Call) (next : Reply call.Result → Plan Verdict) (rest : Chain)
      (w : World σ) (reply : Reply call.Result) (device : σ)
      (answer : channel call w.device = (some reply, device)) :
      Move channel ((id, .call call next) :: rest) w ((id, next reply) :: rest,
        { w.note (.called id call w.tracker.aggregate) with device := device })
  | unanswered (id : ProbeId) (call : Call) (next : Reply call.Result → Plan Verdict) (rest : Chain)
      (w : World σ) (device : σ) (silence : channel call w.device = (none, device)) :
      Move channel ((id, .call call next) :: rest) w ((id, .stalled) :: rest,
        { w.note (.called id call w.tracker.aggregate) with device := device })
  | slept (id : ProbeId) (ms : Nat) (next : Plan Verdict) (rest : Chain) (w : World σ) :
      Move channel ((id, .sleep ms next) :: rest) w ((id, next) :: rest, w.note (.slept id ms))
  | progressed (id : ProbeId) (comment : String) (next : Plan Verdict) (rest : Chain)
      (w : World σ) :
      Move channel ((id, .progress comment next) :: rest) w ((id, next) :: rest,
        w.progress id comment)

theorem step_move (channel : Channel σ) (chain : Chain) (w : World σ) :
    Move channel chain w (chain.step channel w) := by
  match chain with
  | [] => exact .idle w
  | (id, .done verdict) :: rest => exact .resolved id verdict rest w
  | (id, .stalled) :: rest => exact .stalled id rest w
  | (id, .sleep ms next) :: rest => exact .slept id ms next rest w
  | (id, .progress comment next) :: rest => exact .progressed id comment next rest w
  | (id, .call call next) :: rest =>
    simp only [step, Plan.step, World.note_device]
    cases replied : channel call w.device with
    | mk reply device =>
      cases reply with
      | none => exact .unanswered id call next rest w device replied
      | some reply => exact .answered id call next rest w reply device replied

/-- The call of the aggregate's history that the next step of a chain makes. -/
def change? : Chain → Option Change
  | (id, .done verdict) :: _ => some (.resolve id verdict.outcome)
  | (id, .progress comment _) :: _ => some (.setProgress id comment)
  | _ => none

theorem Move.aggregate {channel : Channel σ} {chain : Chain} {w : World σ}
    {moved : Chain × World σ} (move : Move channel chain w moved) :
    moved.2.tracker.aggregate = w.tracker.aggregate.after chain.change?.toList := by
  cases move <;> simp [change?]

end Chain

namespace Run

variable {σ : Type}

def chain (r : Run σ) : Part → Chain
  | .gate => r.gate
  | .late => r.late
  | .main => r.main

def put (r : Run σ) (part : Part) (moved : Chain × World σ) : Run σ :=
  match part with
  | .gate => { r with gate := moved.1, world := moved.2 }
  | .late => { r with late := moved.1, world := moved.2 }
  | .main => { r with main := moved.1, world := moved.2 }

@[simp] theorem put_world (r : Run σ) (part : Part) (moved : Chain × World σ) :
    (r.put part moved).world = moved.2 := by
  cases part <;> rfl

@[simp] theorem put_chain (r : Run σ) (part : Part) (moved : Chain × World σ) :
    (r.put part moved).chain part = moved.1 := by
  cases part <;> rfl

theorem put_chain_of_ne (r : Run σ) {part other : Part} (moved : Chain × World σ)
    (h : other ≠ part) : (r.put part moved).chain other = r.chain other := by
  cases part <;> cases other <;> first | rfl | exact absurd rfl h

theorem forall_chain_put {P : Chain → Prop} {r : Run σ} (all : ∀ part, P (r.chain part))
    {part : Part} {moved : Chain × World σ} (here : P moved.1) (other : Part) :
    P ((r.put part moved).chain other) := by
  by_cases same : other = part
  · rw [same, put_chain]
    exact here
  · rw [put_chain_of_ne r moved same]
    exact all other

def turn (r : Run σ) (branch : Branch) : Part := if r.gate.isEmpty then branch.part else .gate

theorem turn_eq_gate {r : Run σ} {branch : Branch} (busy : r.chain .gate ≠ []) :
    r.turn branch = .gate := by
  simp only [chain] at busy
  simp [turn, busy]

theorem turn_eq_part {r : Run σ} (branch : Branch) (ended : r.chain .gate = []) :
    r.turn branch = branch.part := by
  simp only [chain] at ended
  simp [turn, ended]

theorem step_eq (channel : Channel σ) (branch : Branch) (r : Run σ) :
    r.step channel branch =
      r.put (r.turn branch) ((r.chain (r.turn branch)).step channel r.world) := by
  unfold step turn
  cases r.gate.isEmpty <;> cases branch <;> rfl

@[simp] theorem follow_nil (channel : Channel σ) (r : Run σ) : r.follow channel [] = r := rfl

@[simp] theorem follow_cons (channel : Channel σ) (branch : Branch) (rest : List Branch) (r : Run σ) :
    r.follow channel (branch :: rest) = (r.step channel branch).follow channel rest := rfl

theorem follow_append (channel : Channel σ) (earlier later : List Branch) (r : Run σ) :
    r.follow channel (earlier ++ later) = (r.follow channel earlier).follow channel later :=
  List.foldl_append

theorem follow_induction {channel : Channel σ} {P : Run σ → Prop}
    (keeps : ∀ branch r, P r → P (r.step channel branch)) (schedule : List Branch) {r : Run σ}
    (holds : P r) : P (r.follow channel schedule) := by
  induction schedule generalizing r with
  | nil => exact holds
  | cons branch rest ih => exact ih (keeps branch r holds)

/-- The history of calls on the aggregate that the steps of a schedule make. -/
def changes (channel : Channel σ) (r : Run σ) : List Branch → List Change
  | [] => []
  | branch :: rest =>
    (r.chain (r.turn branch)).change?.toList ++ (r.step channel branch).changes channel rest

theorem step_aggregate (channel : Channel σ) (branch : Branch) (r : Run σ) :
    (r.step channel branch).aggregate =
      r.aggregate.after (r.chain (r.turn branch)).change?.toList := by
  rw [step_eq]
  simp only [aggregate, put_world]
  exact (Chain.step_move channel _ r.world).aggregate

theorem follow_aggregate (channel : Channel σ) (schedule : List Branch) (r : Run σ) :
    (r.follow channel schedule).aggregate = r.aggregate.after (r.changes channel schedule) := by
  induction schedule generalizing r with
  | nil => rfl
  | cons branch rest ih =>
    rw [follow_cons, ih, step_aggregate, changes, Aggregate.after_append]

end Run
end ModulatorHealth.Check
