import ModulatorHealth.Proofs.RunStep

/-! Where a run stands, and what its aggregate says about it: a probe is pending exactly as long as
its chain still has to come to it. -/
namespace ModulatorHealth.Check

open Aggregate (Change)

@[simp] theorem Verdict.outcome_isTerminal (verdict : Verdict) :
    verdict.outcome.isTerminal = true := by
  cases verdict <;> rfl

namespace Chain

variable {σ : Type} {channel : Channel σ} {chain : Chain} {w : World σ} {moved : Chain × World σ}

theorem Move.ids_suffix (move : Move channel chain w moved) : moved.1.ids <:+ chain.ids := by
  cases move with
  | resolved id verdict rest => exact List.suffix_cons id rest.ids
  | idle | stalled | answered | unanswered | slept | progressed => exact List.suffix_refl _

/-- Seen from the aggregate a step is nothing, a word on progress for the first probe, or the end of
the first probe. -/
theorem Move.effect (move : Move channel chain w moved) :
    (moved.1.ids = chain.ids ∧ chain.change? = none) ∨
      (∃ id comment, id ∈ chain.ids ∧ moved.1.ids = chain.ids ∧
        chain.change? = some (.setProgress id comment)) ∨
      (∃ id o, o.isTerminal = true ∧ chain.ids = id :: moved.1.ids ∧
        chain.change? = some (.resolve id o)) := by
  cases move with
  | resolved id verdict rest =>
    exact .inr (.inr ⟨id, verdict.outcome, verdict.outcome_isTerminal, rfl, rfl⟩)
  | progressed id comment next rest =>
    exact .inr (.inl ⟨id, comment, List.mem_cons_self, rfl, rfl⟩)
  | idle | stalled | answered | unanswered | slept => exact .inl ⟨rfl, rfl⟩

end Chain

namespace Run

variable {σ : Type}

/-- The outcome of the probe is still to come. -/
def Awaits (r : Run σ) (id : ProbeId) : Prop := id ∈ (r.chain (Part.of id)).ids

instance (r : Run σ) (id : ProbeId) : Decidable (r.Awaits id) :=
  inferInstanceAs (Decidable (id ∈ (r.chain (Part.of id)).ids))

theorem isFinished_iff (r : Run σ) : r.isFinished = true ↔ ∀ part, r.chain part = [] := by
  simp only [isFinished, Bool.and_eq_true, List.isEmpty_iff]
  constructor
  · rintro ⟨⟨gate, late⟩, main⟩ part
    cases part <;> assumption
  · exact fun h => ⟨⟨h .gate, h .late⟩, h .main⟩

theorem not_awaits_of_chain_eq_nil {r : Run σ} {id : ProbeId} (ended : r.chain (Part.of id) = []) :
    ¬ r.Awaits id := by
  simp [Awaits, ended, Chain.ids]

theorem not_awaits_of_isFinished {r : Run σ} (finished : r.isFinished = true) (id : ProbeId) :
    ¬ r.Awaits id :=
  not_awaits_of_chain_eq_nil ((isFinished_iff r).mp finished _)

theorem awaits_put (r : Run σ) (part : Part) (moved : Chain × World σ) (id : ProbeId) :
    (r.put part moved).Awaits id ↔
      if Part.of id = part then id ∈ moved.1.ids else r.Awaits id := by
  unfold Awaits
  split
  · rename_i same
    rw [same, put_chain]
  · rename_i other
    rw [put_chain_of_ne r moved other]

/-- The position of a run and its aggregate fit together. -/
structure Sound (order : List ProbeId) (r : Run σ) : Prop where
  suffix : ∀ part, (r.chain part).ids <:+ part.probes
  aggregate : r.aggregate.Sound
  ids : r.aggregate.ids = Aggregate.firstOccurrences order
  pending_iff : ∀ id o, r.aggregate.outcome? id = some o → (o.isTerminal = false ↔ r.Awaits id)

section Sound

variable {order : List ProbeId} {r : Run σ} (sound : r.Sound order)
include sound

theorem Sound.part_of_mem {part : Part} {id : ProbeId} (member : id ∈ (r.chain part).ids) :
    Part.of id = part :=
  (Part.mem_probes_iff part id).mp ((sound.suffix part).subset member)

theorem Sound.nodup (part : Part) : (r.chain part).ids.Nodup :=
  (sound.suffix part).sublist.nodup (Part.nodup_probes part)

theorem Sound.awaits_of_mem {part : Part} {id : ProbeId} (member : id ∈ (r.chain part).ids) :
    r.Awaits id := by
  unfold Awaits
  rw [sound.part_of_mem member]
  exact member

theorem Sound.exists_outcome {id : ProbeId} (known : id ∈ order) :
    ∃ o, r.aggregate.outcome? id = some o := by
  rw [← Aggregate.mem_ids_iff, sound.ids]
  exact (Aggregate.mem_firstOccurrences order id).mpr known

theorem Sound.exists_pending {id : ProbeId} (awaited : r.Awaits id) (known : id ∈ order) :
    ∃ o, r.aggregate.outcome? id = some o ∧ o.isTerminal = false := by
  obtain ⟨o, found⟩ := sound.exists_outcome known
  exact ⟨o, found, (sound.pending_iff id o found).mpr awaited⟩

theorem Sound.outcome?_eq_none {id : ProbeId} (unknown : id ∉ order) :
    r.aggregate.outcome? id = none := by
  rw [Option.eq_none_iff_forall_ne_some]
  intro o found
  have member := (Aggregate.mem_ids_iff r.aggregate id).mpr ⟨o, found⟩
  rw [sound.ids, Aggregate.mem_firstOccurrences] at member
  exact unknown member

end Sound

theorem awaits_start (config : CheckConfig) (w : World σ) (id : ProbeId) :
    (start config w).Awaits id := by
  cases id <;> simp [Awaits, Part.of, start, chain, Chain.ids, Chain.ofProbes, gatingProbes,
    lateProbes, mainProbes]

theorem sound_start (config : CheckConfig) (w : World σ) :
    (start config w).Sound w.tracker.order where
  suffix part := by
    cases part <;> exact List.suffix_rfl
  aggregate := Aggregate.sound_new w.tracker.order
  ids := Aggregate.ids_new w.tracker.order
  pending_iff id o found := by
    have pending : o = .pending none := by
      rw [show (start config w).aggregate = Aggregate.new w.tracker.order from rfl,
        Aggregate.outcome?_new] at found
      split at found
      · exact (Option.some.inj found).symm
      · cases found
    simp [pending, awaits_start, Outcome.isTerminal]

theorem awaits_put_of_ids_eq {r : Run σ} {part : Part} {moved : Chain × World σ}
    (same : moved.1.ids = (r.chain part).ids) (id : ProbeId) :
    (r.put part moved).Awaits id ↔ r.Awaits id := by
  rw [awaits_put, same]
  split
  · rename_i h
    unfold Awaits
    rw [h]
  · rfl

section Put

variable {order : List ProbeId} {r : Run σ} (sound : r.Sound order) {part : Part}
  {moved : Chain × World σ}
include sound

theorem awaits_put_of_ids_cons {head : ProbeId} (cons : (r.chain part).ids = head :: moved.1.ids)
    (id : ProbeId) : (r.put part moved).Awaits id ↔ r.Awaits id ∧ id ≠ head := by
  have nodup := sound.nodup part
  have member : head ∈ (r.chain part).ids := by simp [cons]
  have of_head := sound.part_of_mem member
  rw [cons, List.nodup_cons] at nodup
  rw [awaits_put]
  unfold Awaits
  split
  · rename_i h
    rw [h, cons, List.mem_cons]
    constructor
    · intro member
      exact ⟨.inr member, fun equal => nodup.1 (equal ▸ member)⟩
    · rintro ⟨equal | member, other⟩
      · exact absurd equal other
      · exact member
  · rename_i h
    exact ⟨fun member => ⟨member, fun equal => h (equal ▸ of_head)⟩, fun both => both.1⟩

/-- What is said of a probe that is awaited is what its outcome becomes. -/
theorem Sound.outcome_of_perform {c : Change} (awaited : r.Awaits c.probe) {o : Outcome}
    (found : (r.aggregate.perform c).outcome? c.probe = some o) : o = c.outcome := by
  obtain ⟨old, before⟩ : ∃ old, r.aggregate.outcome? c.probe = some old := by
    rw [← Aggregate.mem_ids_iff, ← Aggregate.ids_perform _ c, Aggregate.mem_ids_iff]
    exact ⟨o, found⟩
  have pending := (sound.pending_iff _ old before).mpr awaited
  rw [Aggregate.outcome?_perform_of_pending before pending] at found
  exact (Option.some.inj found).symm

theorem pending_iff_perform {c : Change} (awaited : r.Awaits c.probe) {x : ProbeId} {o : Outcome}
    (found : (r.aggregate.perform c).outcome? x = some o) :
    o.isTerminal = false ↔ if x = c.probe then c.outcome.isTerminal = false else r.Awaits x := by
  split
  · rename_i same
    subst same
    rw [sound.outcome_of_perform awaited found]
  · rename_i other
    rw [Aggregate.outcome?_perform_of_ne _ _ other] at found
    exact sound.pending_iff x o found

theorem Sound.put {channel : Channel σ} (move : Chain.Move channel (r.chain part) r.world moved) :
    (r.put part moved).Sound order := by
  have suffix : ∀ p, ((r.put part moved).chain p).ids <:+ p.probes := by
    intro p
    by_cases same : p = part
    · subst same
      rw [put_chain]
      exact move.ids_suffix.trans (sound.suffix p)
    · rw [put_chain_of_ne r moved same]
      exact sound.suffix p
  have aggregate : (r.put part moved).aggregate =
      r.aggregate.after (r.chain part).change?.toList := by
    simpa only [Run.aggregate, put_world] using move.aggregate
  rcases move.effect with ⟨same, quiet⟩ | ⟨id, comment, member, same, changed⟩ |
    ⟨id, verdict, terminal, cons, changed⟩
  · have equal : (r.put part moved).aggregate = r.aggregate := by rw [aggregate, quiet]; rfl
    refine ⟨suffix, equal ▸ sound.aggregate, equal ▸ sound.ids, fun x o found => ?_⟩
    rw [awaits_put_of_ids_eq same]
    exact sound.pending_iff x o (equal ▸ found)
  · have equal : (r.put part moved).aggregate = r.aggregate.perform (.setProgress id comment) := by
      rw [aggregate, changed]; rfl
    refine ⟨suffix, equal ▸ sound.aggregate.perform _, ?_, fun x o found => ?_⟩
    · rw [equal, Aggregate.ids_perform, sound.ids]
    · have awaited := sound.awaits_of_mem member
      rw [awaits_put_of_ids_eq same,
        pending_iff_perform sound (c := .setProgress id comment) awaited (equal ▸ found)]
      split
      · rename_i h
        exact iff_of_true rfl (h ▸ awaited)
      · rfl
  · have equal : (r.put part moved).aggregate = r.aggregate.perform (.resolve id verdict) := by
      rw [aggregate, changed]; rfl
    have member : id ∈ (r.chain part).ids := by simp [cons]
    have awaited := sound.awaits_of_mem member
    refine ⟨suffix, equal ▸ sound.aggregate.perform _, ?_, fun x o found => ?_⟩
    · rw [equal, Aggregate.ids_perform, sound.ids]
    · rw [awaits_put_of_ids_cons sound cons,
        pending_iff_perform sound (c := .resolve id verdict) awaited (equal ▸ found)]
      split
      · rename_i h
        exact iff_of_false (by simp [Change.outcome, terminal]) fun both => both.2 h
      · rename_i h
        exact ⟨fun pending => ⟨pending, h⟩, fun both => both.1⟩

theorem Sound.step (channel : Channel σ) (branch : Branch) : (r.step channel branch).Sound order := by
  rw [step_eq]
  exact sound.put (Chain.step_move channel _ r.world)

theorem Sound.follow (channel : Channel σ) (schedule : List Branch) :
    (r.follow channel schedule).Sound order :=
  follow_induction (P := fun r => r.Sound order) (fun branch _ sound => sound.step channel branch)
    schedule sound

end Put

end Run
end ModulatorHealth.Check
