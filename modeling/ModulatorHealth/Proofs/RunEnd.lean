import ModulatorHealth.Proofs.PlanCalls
import ModulatorHealth.Proofs.RunPosition
import Mathlib.Order.Nat
import Mathlib.Data.Nat.Find

/-! Runs come to an end. A probe whose question is answered takes finitely many steps, whatever the
answers are, so a chain ends once it gets enough turns; a fair schedule gives them. -/
namespace ModulatorHealth.Check

/-- The question of the probe never stays without an answer. -/
def Answers {σ : Type} (channel : Channel σ) (id : ProbeId) : Prop :=
  ∀ device, ∃ reply next, channel (asked id) device = (some reply, next)

theorem answers_answering {σ : Type} (client : Client σ) (id : ProbeId) :
    Answers (answering client) id :=
  fun _ => ⟨_, _, rfl⟩

/-- Either branch gets a turn again and again. -/
def Fair (turns : Nat → Branch) : Prop := ∀ branch n, ∃ m, n ≤ m ∧ turns m = branch

namespace Chain

variable {σ : Type} {channel : Channel σ}

/-- Every probe still asks its own question, or waits for an answer that never comes. -/
def Orderly (channel : Channel σ) (chain : Chain) : Prop :=
  ∀ probe ∈ chain, probe.2.Asks (asked probe.1) ∨
    probe.2 = .stalled ∧ ¬ Answers channel probe.1

theorem orderly_ofProbes (config : CheckConfig) (ids : List ProbeId) :
    (ofProbes config ids).Orderly channel := by
  intro probe member
  obtain ⟨id, -, rfl⟩ := List.mem_map.mp member
  exact .inl (planOf_asks config id)

theorem Orderly.of_cons {id : ProbeId} {plan : Plan Verdict} {rest : Chain}
    (orderly : Chain.Orderly channel ((id, plan) :: rest)) (moves : plan ≠ .stalled) :
    plan.Asks (asked id) ∧ rest.Orderly channel := by
  refine ⟨?_, fun probe member => orderly probe (List.mem_cons_of_mem _ member)⟩
  rcases orderly (id, plan) List.mem_cons_self with asks | ⟨stalled, -⟩
  · exact asks
  · exact absurd stalled moves

theorem Orderly.asks {chain : Chain} (orderly : chain.Orderly channel)
    {probe : ProbeId × Plan Verdict} (member : probe ∈ chain) (answers : Answers channel probe.1) :
    probe.2.Asks (asked probe.1) := by
  rcases orderly probe member with asks | ⟨-, silent⟩
  · exact asks
  · exact absurd answers silent

theorem Orderly.cons {id : ProbeId} {plan : Plan Verdict} {rest : Chain}
    (asks : plan.Asks (asked id)) (orderly : rest.Orderly channel) :
    Chain.Orderly channel ((id, plan) :: rest) := by
  intro probe member
  rcases List.mem_cons.mp member with rfl | member
  · exact .inl asks
  · exact orderly probe member

theorem Orderly.move {chain : Chain} {w : World σ} {moved : Chain × World σ}
    (orderly : chain.Orderly channel) (move : Move channel chain w moved) :
    moved.1.Orderly channel := by
  cases move with
  | idle | stalled => exact orderly
  | resolved => exact (orderly.of_cons (by simp)).2
  | answered id call next rest w reply device answer =>
    obtain ⟨asks, rest⟩ := orderly.of_cons (by simp)
    exact .cons (asks.2 reply) rest
  | slept | progressed =>
    obtain ⟨asks, rest⟩ := orderly.of_cons (by simp)
    exact .cons asks rest
  | unanswered id call next rest w device silence =>
    obtain ⟨asks, others⟩ := orderly.of_cons (by simp)
    intro probe member
    rcases List.mem_cons.mp member with rfl | member
    · refine .inr ⟨rfl, fun answers => ?_⟩
      obtain ⟨reply, later, answered⟩ := answers w.device
      rw [asks.1, answered] at silence
      cases silence
    · exact others probe member

end Chain

namespace Run

variable {σ : Type} {channel : Channel σ}

def Orderly (channel : Channel σ) (r : Run σ) : Prop := ∀ part, (r.chain part).Orderly channel

theorem orderly_start (config : CheckConfig) (w : World σ) : (start config w).Orderly channel := by
  intro part
  cases part <;> exact Chain.orderly_ofProbes config _

theorem Orderly.put {r : Run σ} (orderly : r.Orderly channel) {part : Part}
    {moved : Chain × World σ} (move : Chain.Move channel (r.chain part) r.world moved) :
    (r.put part moved).Orderly channel :=
  forall_chain_put (P := Chain.Orderly channel) orderly ((orderly part).move move)

theorem Orderly.step {r : Run σ} (orderly : r.Orderly channel) (branch : Branch) :
    (r.step channel branch).Orderly channel := by
  rw [step_eq]
  exact orderly.put (Chain.step_move channel _ r.world)

theorem Orderly.follow {r : Run σ} (orderly : r.Orderly channel) (schedule : List Branch) :
    (r.follow channel schedule).Orderly channel :=
  follow_induction (P := fun r => r.Orderly channel) (fun branch _ orderly => orderly.step branch)
    schedule orderly

/-! Endless schedules, stage by stage. -/

/-- The run after the first turns of an endless schedule. -/
def stage (channel : Channel σ) (turns : Nat → Branch) (r : Run σ) (n : Nat) : Run σ :=
  r.follow channel ((List.range n).map turns)

section Stage

variable {turns : Nat → Branch} {r : Run σ}

theorem stage_succ (n : Nat) :
    r.stage channel turns (n + 1) = (r.stage channel turns n).step channel (turns n) := by
  unfold stage
  rw [List.range_succ, List.map_append, follow_append]
  rfl

theorem stage_chain_succ {n : Nat} {part : Part}
    (turn : (r.stage channel turns n).turn (turns n) = part) :
    (r.stage channel turns (n + 1)).chain part =
      (((r.stage channel turns n).chain part).step channel (r.stage channel turns n).world).1 := by
  rw [stage_succ, step_eq, turn, put_chain]

theorem stage_chain_succ_of_ne {n : Nat} {part : Part}
    (turn : (r.stage channel turns n).turn (turns n) ≠ part) :
    (r.stage channel turns (n + 1)).chain part = (r.stage channel turns n).chain part := by
  rw [stage_succ, step_eq, put_chain_of_ne _ _ (Ne.symm turn)]

theorem stage_chain_nil {n m : Nat} {part : Part} (le : n ≤ m)
    (ended : (r.stage channel turns n).chain part = []) :
    (r.stage channel turns m).chain part = [] := by
  induction m, le using Nat.le_induction with
  | base => exact ended
  | succ m _ ih =>
    by_cases turn : (r.stage channel turns m).turn (turns m) = part
    · rw [stage_chain_succ turn, ih]
      rfl
    · rw [stage_chain_succ_of_ne turn, ih]

/-- The chain gets a turn again for as long as it has anything to do. -/
def Served (channel : Channel σ) (turns : Nat → Branch) (r : Run σ) (part : Part) : Prop :=
  ∀ n, (r.stage channel turns n).chain part ≠ [] →
    ∃ m, n ≤ m ∧ (r.stage channel turns m).turn (turns m) = part

theorem Served.moves {part : Part} (served : r.Served channel turns part) {n : Nat} {chain : Chain}
    (here : (r.stage channel turns n).chain part = chain) (busy : chain ≠ []) :
    ∃ m w, (r.stage channel turns m).chain part = (chain.step channel w).1 := by
  classical
  have some_turn := served n (by rw [here]; exact busy)
  obtain ⟨le, turn⟩ := Nat.find_spec some_turn
  have waits : ∀ k, n ≤ k → k ≤ Nat.find some_turn →
      (r.stage channel turns k).chain part = chain := by
    intro k from_n
    induction k, from_n using Nat.le_induction with
    | base => exact fun _ => here
    | succ k from_n ih =>
      intro upto
      have other := Nat.find_min some_turn (Nat.lt_of_succ_le upto)
      rw [stage_chain_succ_of_ne fun turn => other ⟨from_n, turn⟩]
      exact ih (Nat.le_of_succ_le upto)
  have next := stage_chain_succ turn
  rw [waits _ le (Nat.le_refl _)] at next
  exact ⟨_, _, next⟩

/-- By induction on the chain and, within its first probe, on what is left of the plan. -/
theorem Served.ends {part : Part} (served : r.Served channel turns part) (chain : Chain)
    (answered : ∀ probe ∈ chain, probe.2.Asks (asked probe.1) ∧ Answers channel probe.1) {n : Nat}
    (here : (r.stage channel turns n).chain part = chain) :
    ∃ m, (r.stage channel turns m).chain part = [] := by
  induction chain generalizing n with
  | nil => exact ⟨n, here⟩
  | cons probe rest ih =>
    obtain ⟨id, plan⟩ := probe
    have others := fun probe member => answered probe (List.mem_cons_of_mem _ member)
    have answers : Answers channel id := (answered (id, plan) List.mem_cons_self).2
    have asks : plan.Asks (asked id) := (answered (id, plan) List.mem_cons_self).1
    clear answered
    obtain ⟨m, w, next⟩ := served.moves here (by simp)
    induction plan generalizing n m w with
    | stalled => exact asks.elim
    | done verdict => exact ih others next
    | call c later ihPlan =>
      obtain ⟨reply, device, answer⟩ : ∃ reply device, channel c w.device = (some reply, device) := by
        rw [asks.1]
        exact answers w.device
      simp only [Chain.step, Plan.step, World.note_device, answer] at next
      obtain ⟨k, w, after⟩ := served.moves next (by simp)
      exact ihPlan reply next (asks.2 reply) k w after
    | sleep ms later ihPlan | progress comment later ihPlan =>
      obtain ⟨k, w, after⟩ := served.moves next (by simp [Chain.step, Plan.step])
      exact ihPlan next asks k w after

theorem served_gate : r.Served channel turns .gate :=
  fun n busy => ⟨n, Nat.le_refl n, turn_eq_gate busy⟩

theorem served_branch {n : Nat} (ended : (r.stage channel turns n).chain .gate = [])
    (branch : Branch) (scheduled : ∀ n, ∃ m, n ≤ m ∧ turns m = branch) :
    r.Served channel turns branch.part := by
  intro k _
  obtain ⟨m, le, turn⟩ := scheduled (max n k)
  refine ⟨m, by omega, ?_⟩
  rw [turn, turn_eq_part branch (stage_chain_nil (by omega) ended)]

theorem Served.ends_of_orderly {part : Part} (served : r.Served channel turns part)
    (orderly : (r.chain part).Orderly channel)
    (answers : ∀ id ∈ (r.chain part).ids, Answers channel id) :
    ∃ m, (r.stage channel turns m).chain part = [] := by
  refine served.ends (n := 0) (r.chain part) (fun probe member => ?_) rfl
  have answered := answers probe.1 (List.mem_map_of_mem member)
  exact ⟨orderly.asks member answered, answered⟩

theorem Orderly.finishes (orderly : r.Orderly channel) (answers : ∀ id, Answers channel id)
    (fair : Fair turns) : ∃ n, ∀ m, n ≤ m → (r.stage channel turns m).isFinished = true := by
  have ends : ∀ part, r.Served channel turns part →
      ∃ m, (r.stage channel turns m).chain part = [] :=
    fun part served => served.ends_of_orderly (orderly part) fun id _ => answers id
  obtain ⟨g, gate⟩ := ends .gate served_gate
  obtain ⟨l, late⟩ := ends .late (served_branch gate .late (fair .late))
  obtain ⟨k, main⟩ := ends .main (served_branch gate .main (fair .main))
  refine ⟨max g (max l k), fun m le => (isFinished_iff _).mpr fun part => ?_⟩
  cases part with
  | gate => exact stage_chain_nil (by omega) gate
  | late => exact stage_chain_nil (by omega) late
  | main => exact stage_chain_nil (by omega) main

end Stage

end Run
end ModulatorHealth.Check
