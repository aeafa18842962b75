import ModulatorHealth.Proofs.CounterRounds

/-! What a history keeps of the samples that it is given. A sample is appended as long as there is room for
it, so what is kept is a prefix, and nothing changes a history that is full. The verdict looks at its two
ends: of all samples given, the first one and the one that filled the history. -/
namespace ModulatorHealth.Check

namespace SampleHistory

def after (h : SampleHistory) (xs : List Int) : SampleHistory := xs.foldl (fun h x => (h.record x).1) h

def answers (h : SampleHistory) : List Int → List Bool
  | [] => []
  | x :: rest => (h.record x).2 :: answers (h.record x).1 rest

section Records

variable {h : SampleHistory} (x : Int) (xs ys : List Int)

theorem record_of_isFull (full : h.isFull = true) : h.record x = (h, false) := by
  rw [record, if_pos full]

theorem record_snd : (h.record x).2 = decide (h.samples.length < h.capacity) := by
  by_cases room : h.samples.length < h.capacity
  · rw [record_of_lt room, decide_eq_true room]
  · rw [record_of_isFull x ((isFull_iff h).mpr (Nat.le_of_not_lt room)), decide_eq_false room]

@[simp] theorem capacity_record : (h.record x).1.capacity = h.capacity := by
  unfold record
  split <;> rfl

theorem samples_record (fits : h.samples.length ≤ h.capacity) :
    (h.record x).1.samples = (h.samples ++ [x]).take h.capacity := by
  by_cases room : h.samples.length < h.capacity
  · rw [record_of_lt room, List.take_of_length_le]
    rw [List.length_append, List.length_singleton]
    exact room
  · have full : h.samples.length = h.capacity := by omega
    rw [record_of_isFull x ((isFull_iff h).mpr (Nat.le_of_not_lt room)), List.take_left' full]

theorem length_record (fits : h.samples.length ≤ h.capacity) :
    (h.record x).1.samples.length = min h.capacity (h.samples.length + 1) := by
  rw [samples_record x fits, List.length_take, List.length_append, List.length_singleton]

theorem fits_record (fits : h.samples.length ≤ h.capacity) :
    (h.record x).1.samples.length ≤ (h.record x).1.capacity := by
  rw [length_record x fits, capacity_record]
  exact Nat.min_le_left _ _

theorem after_append : h.after (xs ++ ys) = (h.after xs).after ys := List.foldl_append

@[simp] theorem capacity_after : (h.after xs).capacity = h.capacity := by
  induction xs generalizing h with
  | nil => rfl
  | cons x rest ih => exact (@ih (h.record x).1).trans (capacity_record x)

/-- By induction on the samples, for all histories that are not over their capacity: what is cut off at
one of them would be cut off at the end. -/
theorem samples_after (fits : h.samples.length ≤ h.capacity) :
    (h.after xs).samples = (h.samples ++ xs).take h.capacity := by
  induction xs generalizing h with
  | nil => rw [List.append_nil, List.take_of_length_le fits]; rfl
  | cons x rest ih =>
    have cut (start : List Int) :
        (start.take h.capacity ++ rest).take h.capacity = (start ++ rest).take h.capacity := by
      rw [List.take_append, List.take_append, List.take_take, Nat.min_self, List.length_take]
      congr 2
      omega
    calc ((h.record x).1.after rest).samples
        = ((h.samples ++ [x]).take h.capacity ++ rest).take h.capacity := by
          rw [ih (fits_record x fits), samples_record x fits, capacity_record]
      _ = (h.samples ++ [x] ++ rest).take h.capacity := cut _
      _ = (h.samples ++ x :: rest).take h.capacity := by rw [List.append_assoc, List.singleton_append]

theorem answers_eq (fits : h.samples.length ≤ h.capacity) :
    h.answers xs = (List.range xs.length).map fun i => decide (h.samples.length + i < h.capacity) := by
  induction xs generalizing h with
  | nil => rfl
  | cons x rest ih =>
    rw [answers, record_snd, ih (fits_record x fits), length_record x fits, capacity_record,
      List.length_cons, List.range_succ_eq_map, List.map_cons, List.map_map]
    congr 2
    funext i
    exact decide_eq_decide.mpr (by omega)

theorem after_of_isFull (full : h.isFull = true) : h.after xs = h := by
  induction xs with
  | nil => rfl
  | cons x rest ih => exact (congrArg (·.1.after rest) (record_of_isFull x full)).trans ih

end Records

section Given

variable (rounds : UInt32) (xs : List Int)

theorem samples_after_new : ((new rounds).after xs).samples = xs.take (rounds.toNat + 1) :=
  samples_after xs (Nat.zero_le _)

theorem isFull_after_new : ((new rounds).after xs).isFull = true ↔ rounds.toNat + 1 ≤ xs.length := by
  rw [isFull_iff, capacity_after, samples_after_new, List.length_take]
  exact Nat.le_min.trans (and_iff_right (Nat.le_refl _))

theorem baseline?_after_new : ((new rounds).after xs).baseline? = xs[0]? := by
  rw [baseline?, samples_after_new, List.head?_take, if_neg (Nat.succ_ne_zero _), List.head?_eq_getElem?]

variable {rounds xs}

theorem last?_after_new (enough : rounds.toNat + 1 ≤ xs.length) :
    ((new rounds).after xs).last? = xs[rounds.toNat]? := by
  rw [last?, samples_after_new, List.getLast?_eq_getElem?, List.length_take, Nat.min_eq_left enough,
    Nat.add_sub_cancel, List.getElem?_take_of_lt (Nat.lt_succ_self _)]

end Given

end SampleHistory

section Verdicts

variable (label : CounterLabel) (rounds : UInt32) {h k : SampleHistory}

theorem isOk_stableVerdict_iff :
    (stableVerdict label rounds h).isOk = true ↔
      h.isFull = true ∧ ∃ x, h.baseline? = some x ∧ h.last? = some x := by
  cases baseline : h.baseline? with
  | none => simp [stableVerdict, baseline, Except.isOk, Except.toBool]
  | some first =>
    cases final : h.last? with
    | none => simp [stableVerdict, baseline, final, Except.isOk, Except.toBool]
    | some last =>
      by_cases full : h.isFull = true
      · rw [isOk_stableVerdict label rounds full baseline final]
        simp [full, eq_comm]
      · simp [stableVerdict, baseline, final, full, Except.isOk, Except.toBool]

theorem stableVerdict_congr (full : h.isFull = true) (full' : k.isFull = true) {first last : Int}
    (baseline : h.baseline? = some first) (baseline' : k.baseline? = some first)
    (final : h.last? = some last) (final' : k.last? = some last) :
    stableVerdict label rounds h = stableVerdict label rounds k := by
  simp only [stableVerdict, full, full', baseline, baseline', final, final', Bool.not_true,
    Bool.false_eq_true, if_false]

end Verdicts

namespace SampleHistory

variable (label : CounterLabel) (rounds : UInt32) (xs : List Int)

theorem isOk_after_new :
    (stableVerdict label rounds ((new rounds).after xs)).isOk = true ↔
      rounds.toNat + 1 ≤ xs.length ∧ xs[0]? = xs[rounds.toNat]? := by
  rw [isOk_stableVerdict_iff, isFull_after_new, baseline?_after_new]
  refine and_congr_right fun enough => ?_
  rw [last?_after_new enough]
  constructor
  · rintro ⟨x, first, last⟩
    rw [first, last]
  · intro same
    have first : xs[0]? = some xs[0] := List.getElem?_eq_getElem (by omega)
    exact ⟨xs[0], first, same ▸ first⟩

theorem stableVerdict_after_new {ys : List Int} (enough : rounds.toNat + 1 ≤ xs.length)
    (first : ys[0]? = xs[0]?) (last : ys[rounds.toNat]? = xs[rounds.toNat]?) :
    stableVerdict label rounds ((new rounds).after ys) =
      stableVerdict label rounds ((new rounds).after xs) := by
  have low : xs[0]? = some xs[0] := List.getElem?_eq_getElem (by omega)
  have high : xs[rounds.toNat]? = some xs[rounds.toNat] := List.getElem?_eq_getElem (by omega)
  have enough' : rounds.toNat < ys.length := (List.getElem?_eq_some_iff.mp (last.trans high)).1
  exact stableVerdict_congr label rounds ((isFull_after_new rounds ys).mpr enough')
    ((isFull_after_new rounds xs).mpr enough)
    ((baseline?_after_new rounds ys).trans (first.trans low)) ((baseline?_after_new rounds xs).trans low)
    ((last?_after_new enough').trans (last.trans high)) ((last?_after_new enough).trans high)

/-- A new history keeps the first samples that it is given, one more than there are rounds, and refuses all
others. Its baseline is the first sample for good. The verdict passes if it is full and its two ends
are equal, so all other samples could as well have been different. -/
theorem keeps_first_samples (label : CounterLabel) (rounds : UInt32) (xs : List Int) :
    let history := (new rounds).after xs
    (new rounds).answers xs = (List.range xs.length).map (fun i => decide (i < rounds.toNat + 1)) ∧
    history.samples = xs.take (rounds.toNat + 1) ∧
    history.baseline? = xs[0]? ∧
    (∀ later, xs ≠ [] → (history.after later).baseline? = history.baseline?) ∧
    (∀ later, rounds.toNat + 1 ≤ xs.length → history.after later = history) ∧
    ((stableVerdict label rounds history).isOk = true ↔
      rounds.toNat + 1 ≤ xs.length ∧ xs[0]? = xs[rounds.toNat]?) ∧
    ∀ ys : List Int, ys[0]? = xs[0]? → ys[rounds.toNat]? = xs[rounds.toNat]? →
      let other := (new rounds).after ys
      (stableVerdict label rounds other).isOk = (stableVerdict label rounds history).isOk ∧
        (rounds.toNat + 1 ≤ xs.length →
          stableVerdict label rounds other = stableVerdict label rounds history) := by
  intro history
  refine ⟨?_, samples_after_new rounds xs, baseline?_after_new rounds xs, fun later given => ?_,
    fun later enough => after_of_isFull later ((isFull_after_new rounds xs).mpr enough),
    isOk_after_new label rounds xs, fun ys first last =>
    ⟨?_, fun enough => stableVerdict_after_new label rounds xs enough first last⟩⟩
  · simpa [new] using answers_eq (h := new rounds) xs (Nat.zero_le _)
  · rw [← after_append, baseline?_after_new, baseline?_after_new,
      List.getElem?_append_left (List.length_pos_iff.mpr given)]
  · -- Whether there are enough samples can be seen from the one that fills the history.
    have enough_iff (zs : List Int) :
        rounds.toNat + 1 ≤ zs.length ↔ zs[rounds.toNat]?.isSome = true := by
      rw [isSome_getElem?]
      exact Nat.succ_le_iff
    rw [Bool.eq_iff_iff, isOk_after_new, isOk_after_new, enough_iff, enough_iff, first, last]

/-- A sample that comes too late is refused, and does not make up for the one before it. -/
example : (new 1).answers [5, 6, 5] = [true, true, false] ∧
    (stableVerdict .underruns 1 ((new 1).after [5, 6, 5])).isOk = false := by decide

end SampleHistory
end ModulatorHealth.Check
