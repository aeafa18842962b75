import ModulatorHealth.Proofs.AggregateHistory
import ModulatorHealth.Proofs.DataRoundTrip

/-! Invariants that constructors establish and readers do not ask for. An aggregate, a report and a
reference to a parameter are read as they are written, so what is read can be built exactly if what is
written keeps the invariants; and every value of these types is the reading of some text. -/
namespace ModulatorHealth

open Json (readText?)

namespace Aggregate

variable {a : Aggregate}

def IsBuilt (a : Aggregate) : Prop := ∃ order changes, a = (new order).after changes

theorem firstOccurrences_of_nodup {order : List ProbeId} (nodup : order.Nodup) :
    firstOccurrences order = order := by
  induction order using List.reverseRecOn with
  | nil => rfl
  | append_singleton order last ih =>
    obtain ⟨before, -, apart⟩ := List.nodup_append.mp nodup
    have fresh : last ∉ order := fun member => apart last member last (List.mem_singleton_self last) rfl
    rw [firstOccurrences_concat, ih before, if_neg fresh]

theorem sound_iff : a.Sound ↔
    a.ids.Nodup ∧ (a.failureSeen = true ↔ ∃ entry ∈ a.entries, entry.outcome.isFail = true) := by
  constructor
  · intro sound
    exact ⟨sound.nodup, sound.failureSeen_iff⟩
  · rintro ⟨nodup, latch⟩
    exact ⟨nodup, latch.trans (exists_entry_iff nodup fun o => o.isFail = true)⟩

theorem Sound.eq_after (sound : a.Sound) :
    a = (new a.ids).after (a.ids.map fun id => .resolve id ((a.outcome? id).getD (.pending none))) := by
  have start := sound_new a.ids
  refine sound.eq_of_outcomes (start.after _) ?_ fun id => ?_
  · rw [ids_after, ids_new, firstOccurrences_of_nodup sound.nodup]
  · by_cases member : id ∈ a.ids
    · have pending : (new a.ids).outcome? id = some (.pending none) := by rw [outcome?_new, if_pos member]
      rw [outcome?_after_resolves _ _ sound.nodup member pending rfl]
      obtain ⟨entry, inside, rfl⟩ := List.mem_map.mp member
      rw [(outcome?_eq_some_iff sound.nodup entry.id entry.outcome).mpr inside, Option.getD_some]
    · have absent : a.outcome? id = none :=
        Option.eq_none_iff_forall_ne_some.mpr fun o shown => member ((mem_ids_iff a id).mpr ⟨o, shown⟩)
      rw [absent, outcome?_after_of_not_mem, outcome?_new, if_neg member]
      rintro c called rfl
      obtain ⟨id, inside, rfl⟩ := List.mem_map.mp called
      exact member inside

theorem isBuilt_iff_sound : a.IsBuilt ↔ a.Sound := by
  constructor
  · rintro ⟨order, changes, rfl⟩
    exact (sound_new order).after changes
  · intro sound
    exact ⟨_, _, sound.eq_after⟩

theorem overallOk_iff (a : Aggregate) : a.overallOk = true ↔
    a.failureSeen = false ∧ ∀ entry ∈ a.entries, entry.outcome.isOk = true := by
  unfold overallOk overall
  split_ifs with latch all
  · simp [latch]
  · simpa [latch] using all
  · simpa [latch] using all

theorem overall_eq_running_iff_of_isComplete (complete : a.isComplete = true) :
    a.overall = .running ↔
      a.failureSeen = false ∧ ∃ entry ∈ a.entries, entry.outcome.isFail = true := by
  have failed : ∀ entry ∈ a.entries, entry.outcome.isOk = false ↔ entry.outcome.isFail = true := by
    intro entry member
    have terminal := (isComplete_iff a).mp complete entry member
    cases h : entry.outcome <;> simp_all [Outcome.isOk, Outcome.isFail, Outcome.isTerminal]
  have not_all : a.entries.all (·.outcome.isOk) = false ↔
      ∃ entry ∈ a.entries, entry.outcome.isFail = true := by
    rw [List.all_eq_false]
    exact exists_congr fun entry => and_congr_right fun member => by
      rw [Bool.not_eq_true, failed entry member]
  rw [← not_all]
  unfold overall
  split_ifs with latch all
  · simp [latch]
  · simp [all]
  · simp [latch, all]

end Aggregate

theorem ParamRef.new_eq_ok_iff (p : ParamRef) : new p.controllable p.param = .ok p ↔
    Text.isBlankText p.controllable = false ∧ Text.isBlankText p.param = false := by
  unfold new
  split_ifs with controllable param
  · simp [controllable]
  · simp [param]
  · simp [controllable, param]

/-- Version 4, of the standard variant. -/
def Uuid.IsVersion4 (id : Uuid) : Prop := id.value / 2 ^ 76 % 16 = 4 ∧ id.value / 2 ^ 62 % 4 = 2

theorem Uuid.exists_ofRandom_eq_iff (id : Uuid) : (∃ random, ofRandom random = id) ↔ id.IsVersion4 := by
  constructor
  · rintro ⟨random, rfl⟩
    simp only [IsVersion4, ofRandom, powerOfTwo, Nat.pow_eq]
    omega
  · rintro ⟨version, variant⟩
    refine ⟨id.value, ?_⟩
    have below := id.value_lt
    have same : (ofRandom id.value).value = id.value := by
      simp only [ofRandom, powerOfTwo, Nat.pow_eq]
      omega
    cases id
    simpa [ofRandom] using same

namespace Report

/-- What the constructor makes of some run. -/
def IsMade (r : Report) : Prop :=
  ∃ random device startedAt finishedAt aggregate,
    r = ofRun random device startedAt finishedAt aggregate

theorem isMade_iff (r : Report) : r.IsMade ↔ r.runId.IsVersion4 ∧
    r.durationMs = .ofNat (r.startedAt.millisecondsUntil r.finishedAt).toNat ∧
    r.overall = r.aggregate.overall := by
  constructor
  · rintro ⟨random, device, startedAt, finishedAt, aggregate, rfl⟩
    exact ⟨(Uuid.exists_ofRandom_eq_iff _).mp ⟨random, rfl⟩, rfl, rfl⟩
  · rintro ⟨version, duration, status⟩
    obtain ⟨random, id⟩ := (Uuid.exists_ofRandom_eq_iff _).mpr version
    refine ⟨random, r.device, r.startedAt, r.finishedAt, r.aggregate, ?_⟩
    rw [ofRun, id, ← duration, ← status]

end Report

theorem Report.readText?_render {r : Report} (started : r.startedAt.IsClockTime)
    (ended : r.finishedAt.IsClockTime) : readText? read? r.toJson.render = some r := by
  rw [readText?, Json.Tree.parse?_render r.hasNoDouble, Option.bind_some]
  exact read?_toJson started ended

/-- No value is refused for what it says: every aggregate, report and reference has a text that is read as
it. For every text, an aggregate that is read from it could have been built if its probes are distinct and
its latch says whether one failed, and not otherwise. It is ok as a whole if the latch is clear and every
probe is ok; it is complete and running where a probe failed without the latch. A report could have been
made if its identifier is of version 4, its duration the time between its two instants and its status that
of its aggregate, and a reference if neither name is blank. -/
theorem reading_checks_no_invariant (text : String) :
    ((∀ a : Aggregate, readText? Aggregate.read? a.toJson.render = some a) ∧
      ∀ a, readText? Aggregate.read? text = some a →
        (a.IsBuilt ↔ a.ids.Nodup ∧
          (a.failureSeen = true ↔ ∃ entry ∈ a.entries, entry.outcome.isFail = true)) ∧
        (a.overallOk = true ↔ a.failureSeen = false ∧ ∀ entry ∈ a.entries, entry.outcome.isOk = true) ∧
        (a.isComplete = true → (a.overall = .running ↔
          a.failureSeen = false ∧ ∃ entry ∈ a.entries, entry.outcome.isFail = true)) ∧
        (a.IsBuilt → (a.overallOk = true ↔ ∀ entry ∈ a.entries, entry.outcome.isOk = true) ∧
          (a.isComplete = true → a.overall ≠ .running))) ∧
    ((∀ r : Report, r.startedAt.IsClockTime → r.finishedAt.IsClockTime →
        readText? Report.read? r.toJson.render = some r) ∧
      ∀ r, readText? Report.read? text = some r → (r.IsMade ↔ r.runId.IsVersion4 ∧
        r.durationMs = .ofNat (r.startedAt.millisecondsUntil r.finishedAt).toNat ∧
        r.overall = r.aggregate.overall)) ∧
    (∀ p : ParamRef, readText? ParamRef.read? p.toJson.render = some p) ∧
      ∀ p, readText? ParamRef.read? text = some p →
        (ParamRef.new p.controllable p.param = .ok p ↔
          Text.isBlankText p.controllable = false ∧ Text.isBlankText p.param = false) := by
  refine ⟨⟨fun a => ?_, fun a _ => ⟨Aggregate.isBuilt_iff_sound.trans Aggregate.sound_iff,
      a.overallOk_iff, Aggregate.overall_eq_running_iff_of_isComplete, fun built => ?_⟩⟩,
    ⟨fun r => Report.readText?_render, fun r _ => r.isMade_iff⟩,
    fun p => ?_, fun p _ => p.new_eq_ok_iff⟩
  · rw [readText?, Json.Tree.parse?_render a.hasNoDouble]
    exact a.read?_toJson
  · have sound := Aggregate.isBuilt_iff_sound.mp built
    refine ⟨?_, fun complete => ?_⟩
    · rw [← sound.overall_eq_ok_iff]
      exact decide_eq_true_iff
    · rw [sound.overall_of_isComplete complete]
      split <;> exact Overall.noConfusion
  · rw [readText?, Json.Tree.parse?_render p.hasNoDouble]
    exact ParamRef.read?_eq_some_iff.mpr p.isWritten_toJson

/-- Texts that contradict themselves are read: a probe twice, a failure without the latch in a complete
run that is said to go on, a latch without a failure in a report that is said to be ok, blank names. -/
theorem reads_contradictions :
    (∃ a, readText? Aggregate.read? ("\x7b\"probes\":[\x7b\"id\":\"underruns\",\"outcome\":[\"ok\",null]\x7d," ++
          "\x7b\"id\":\"underruns\",\"outcome\":[\"fail\",\"5\"]\x7d],\"failure_seen\":false\x7d") = some a ∧
        ¬a.ids.Nodup ∧ a.failureSeen = false ∧ (∃ entry ∈ a.entries, entry.outcome.isFail = true) ∧
        a.isComplete = true ∧ a.overall = .running) ∧
      (readText? Report.read? ("\x7b\"run_id\":\"67e55044-10b1-426f-9247-bb680e5fe0c8\",\"device\":\"d\"," ++
          "\"started_at\":\"2024-01-02T03:04:05Z\",\"finished_at\":\"2024-01-02T03:04:06Z\"," ++
          "\"duration_ms\":1000,\"overall\":\"ok\"," ++
          "\"aggregate\":\x7b\"probes\":[],\"failure_seen\":true\x7d\x7d")).map
        (fun r => (r.overall, r.aggregate.overall)) = some (.ok, .degraded) ∧
      ∃ p, readText? ParamRef.read? "\x7b\"controllable\":\"\",\"param\":\" \"\x7d" = some p ∧
        ParamRef.new p.controllable p.param = .error .emptyControllable := by
  refine ⟨⟨⟨[⟨.underruns, .ok none⟩, ⟨.underruns, .fail "5"⟩], false⟩, ?_, by decide⟩, ?_,
    ⟨"", " "⟩, ?_, by decide⟩
  · decide +kernel
  · decide +kernel
  · decide +kernel

end ModulatorHealth
