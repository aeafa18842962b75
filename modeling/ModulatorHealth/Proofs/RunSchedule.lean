import ModulatorHealth.Proofs.RunEnd
import Mathlib.Logic.Relation

/-! The run that finishes chain by chain is one of the interleavings: some schedule leads to it. If
the questions of the probes are answered, it goes through to the end. -/
namespace ModulatorHealth.Check

namespace Chain

variable {σ : Type} {channel : Channel σ}

def Advances (channel : Channel σ) (before after : Chain × World σ) : Prop :=
  before.1 ≠ [] ∧ after = before.1.step channel before.2

abbrev Reaches (channel : Channel σ) : Chain × World σ → Chain × World σ → Prop :=
  Relation.ReflTransGen (Advances channel)

/-- What a chain comes to when its first plan has run as far as it goes. -/
def afterPlan (id : ProbeId) (rest : Chain) : Option Verdict × World σ → Chain × World σ
  | (some verdict, w) => ((id, .done verdict) :: rest, w)
  | (none, w) => ((id, .stalled) :: rest, w)

theorem reaches_afterPlan (id : ProbeId) (rest : Chain) (plan : Plan Verdict) (w : World σ) :
    Reaches channel ((id, plan) :: rest, w) (afterPlan id rest (plan.run channel id w)) := by
  induction plan generalizing w with
  | done | stalled => exact .refl
  | sleep ms next ih | progress comment next ih =>
    exact .head ⟨List.cons_ne_nil _ _, rfl⟩ (ih _)
  | call c next ih =>
    have first : Advances channel ((id, .call c next) :: rest, w)
        (Chain.step channel ((id, .call c next) :: rest) w) := ⟨List.cons_ne_nil _ _, rfl⟩
    refine .head first ?_
    simp only [Chain.step, Plan.step, Plan.run, World.note_device]
    cases channel c w.device with
    | mk reply device =>
      cases reply with
      | none => exact .refl
      | some reply => exact ih reply _

theorem reaches_run (channel : Channel σ) (chain : Chain) (w : World σ) :
    Reaches channel (chain, w) (chain.run channel w) := by
  induction chain generalizing w with
  | nil => exact .refl
  | cons probe rest ih =>
    obtain ⟨id, plan⟩ := probe
    refine .trans (reaches_afterPlan id rest plan w) ?_
    simp only [Chain.run]
    cases plan.run channel id w with
    | mk verdict w =>
      cases verdict with
      | none => exact .refl
      | some verdict => exact .head ⟨List.cons_ne_nil _ _, rfl⟩ (ih _)

end Chain

namespace Run

variable {σ : Type} {channel : Channel σ}

theorem put_put (r : Run σ) (part : Part) (first second : Chain × World σ) :
    (r.put part first).put part second = r.put part second := by
  cases part <;> rfl

theorem put_self (r : Run σ) (part : Part) : r.put part (r.chain part, r.world) = r := by
  cases part <;> rfl

/-- What the steps of one chain reach is reached by giving it turns, if it is its time. -/
theorem exists_follow_of_reaches (r : Run σ) (branch : Branch) (part : Part)
    (time : part = .gate ∨ part = branch.part ∧ r.gate = []) {moved : Chain × World σ}
    (reached : Chain.Reaches channel (r.chain part, r.world) moved) :
    ∃ schedule, r.follow channel schedule = r.put part moved := by
  induction reached with
  | refl => exact ⟨[], (put_self r part).symm⟩
  | @tail mid after _ step ih =>
    obtain ⟨schedule, followed⟩ := ih
    obtain ⟨busy, rfl⟩ := step
    have turn : (r.put part mid).turn branch = part := by
      rcases time with rfl | ⟨rfl, ended⟩
      · exact turn_eq_gate (by rwa [put_chain])
      · refine turn_eq_part branch ?_
        cases branch <;> exact ended
    refine ⟨schedule ++ [branch], ?_⟩
    rw [follow_append, followed, follow_cons, follow_nil, step_eq, turn, put_chain, put_world, put_put]

theorem exists_finish_eq_follow (r : Run σ) (channel : Channel σ) :
    ∃ schedule, r.finish channel = r.follow channel schedule := by
  obtain ⟨first, gate⟩ := exists_follow_of_reaches r .main .gate (.inl rfl)
    (Chain.reaches_run channel r.gate r.world)
  unfold finish
  cases ended : (r.gate.run channel r.world).1.isEmpty with
  | false =>
    refine ⟨first, ?_⟩
    rw [gate]
    simp [ended, put]
  | true =>
    let r₁ := r.put .gate (r.gate.run channel r.world)
    have open₁ : r₁.gate = [] := List.isEmpty_iff.mp ended
    obtain ⟨second, late⟩ := exists_follow_of_reaches r₁ .late .late (.inr ⟨rfl, open₁⟩)
      (Chain.reaches_run channel r₁.late r₁.world)
    let r₂ := r₁.put .late (r₁.late.run channel r₁.world)
    obtain ⟨third, main⟩ := exists_follow_of_reaches r₂ .main .main (.inr ⟨rfl, open₁⟩)
      (Chain.reaches_run channel r₂.main r₂.world)
    refine ⟨first ++ (second ++ third), ?_⟩
    rw [follow_append, gate, follow_append, late, main]
    simp [ended, r₁, r₂, put]

end Run

section Answered

variable {σ : Type} {channel : Channel σ}

theorem Plan.Asks.run_eq_some {α : Type} {id : ProbeId} {plan : Plan α} (asks : plan.Asks (asked id))
    (answers : Answers channel id) (w : World σ) :
    ∃ result w', plan.run channel id w = (some result, w') := by
  induction plan generalizing w with
  | stalled => exact asks.elim
  | done result => exact ⟨result, w, rfl⟩
  | sleep ms next ih => exact ih asks _
  | progress comment next ih => exact ih asks _
  | call c next ih =>
    obtain ⟨rfl, asks⟩ := asks
    obtain ⟨reply, device, answer⟩ := answers w.device
    simp only [Plan.run, World.note_device, answer]
    exact ih reply (asks reply) _

theorem Chain.run_eq_nil {chain : Chain}
    (answered : ∀ probe ∈ chain, probe.2.Asks (asked probe.1) ∧ Answers channel probe.1)
    (w : World σ) : (chain.run channel w).1 = [] := by
  induction chain generalizing w with
  | nil => rfl
  | cons probe rest ih =>
    obtain ⟨id, plan⟩ := probe
    obtain ⟨asks, answers⟩ := answered _ List.mem_cons_self
    obtain ⟨verdict, w', ran⟩ := Plan.Asks.run_eq_some asks answers w
    simp only [Chain.run, ran]
    exact ih (fun probe member => answered probe (List.mem_cons_of_mem _ member)) _

theorem run_isFinished (answers : ∀ id, Answers channel id) (config : CheckConfig) (w : World σ) :
    (run channel config w).isFinished = true := by
  have ends : ∀ (ids : List ProbeId) (w : World σ),
      ((Chain.ofProbes config ids).run channel w).1 = [] := by
    intro ids
    refine Chain.run_eq_nil fun probe member => ?_
    obtain ⟨id, -, rfl⟩ := List.mem_map.mp member
    exact ⟨planOf_asks config id, answers id⟩
  simp [run, Run.finish, Run.start, Run.isFinished, ends]

theorem exists_schedule_of_run (answers : ∀ id, Answers channel id) (config : CheckConfig)
    (w : World σ) : ∃ schedule, run channel config w = (Run.start config w).follow channel schedule ∧
      ((Run.start config w).follow channel schedule).isFinished = true := by
  obtain ⟨schedule, same⟩ := (Run.start config w).exists_finish_eq_follow channel
  have finished := run_isFinished answers config w
  rw [run, same] at finished
  exact ⟨schedule, same, finished⟩

end Answered
end ModulatorHealth.Check
