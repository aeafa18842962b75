import ModulatorHealth.Aggregate
import Mathlib.Data.List.Basic
import Mathlib.Data.List.Induction
import Mathlib.Data.List.Nodup

/-! Histories of calls on an aggregate, accepted and refused ones. Every call that changes anything
is a resolve, and a resolve needs a pending outcome: hence the latch, the outcomes and the overall
status stay in step, and neither a terminal outcome nor a settled status is ever left. -/
namespace ModulatorHealth

namespace ProbeId

theorem mem_order (id : ProbeId) : id ∈ order := by
  cases id <;> decide

theorem nodup_order : order.Nodup := by
  decide

end ProbeId

namespace Outcome

theorem isTerminal_of_isOk {o : Outcome} (h : o.isOk = true) : o.isTerminal = true := by
  cases o <;> simp_all [isOk, isTerminal]

theorem isTerminal_of_isFail {o : Outcome} (h : o.isFail = true) : o.isTerminal = true := by
  cases o <;> simp_all [isFail, isTerminal]

theorem isFail_of_isTerminal {o : Outcome} (terminal : o.isTerminal = true) (h : o.isOk = false) :
    o.isFail = true := by
  cases o <;> simp_all [isFail, isOk, isTerminal]

theorem isFail_of_isOk {o : Outcome} (h : o.isOk = true) : o.isFail = false := by
  cases o <;> simp_all [isFail, isOk]

end Outcome

namespace Aggregate

def ids (a : Aggregate) : List ProbeId := a.entries.map Entry.id

inductive Change where
  | setProgress (id : ProbeId) (progress : String)
  | resolve (id : ProbeId) (outcome : Outcome)
  | markOk (id : ProbeId) (comment : Option String)
  | markFail (id : ProbeId) (reason : String)

namespace Change

def apply (a : Aggregate) : Change → Except Rejection Aggregate
  | .setProgress id progress => a.setProgress id progress
  | .resolve id outcome => a.resolve id outcome
  | .markOk id comment => a.markOk id comment
  | .markFail id reason => a.markFail id reason

def probe : Change → ProbeId
  | .setProgress id _ | .resolve id _ | .markOk id _ | .markFail id _ => id

def outcome : Change → Outcome
  | .setProgress _ progress => .pending (some progress)
  | .resolve _ outcome => outcome
  | .markOk _ comment => .ok comment
  | .markFail _ reason => .fail reason

def resolves (c : Change) (id : ProbeId) : Bool :=
  match c with
  | .setProgress _ _ => false
  | .resolve x _ | .markOk x _ | .markFail x _ => x = id

theorem apply_eq_resolve (a : Aggregate) (c : Change) : c.apply a = a.resolve c.probe c.outcome := by
  cases c with
  | setProgress id progress => simp [apply, probe, outcome, Aggregate.setProgress, Aggregate.resolve, Outcome.isFail]
  | resolve | markOk | markFail => rfl

end Change

/-- The aggregate after a call. A refused call only says why. -/
def perform (a : Aggregate) (c : Change) : Aggregate :=
  match c.apply a with
  | .ok b => b
  | .error _ => a

def after (a : Aggregate) (changes : List Change) : Aggregate := changes.foldl perform a

def answers (a : Aggregate) : List Change → List (Except Rejection Unit)
  | [] => []
  | c :: rest => (c.apply a).map (fun _ => ()) :: (a.perform c).answers rest

@[simp] theorem after_nil (a : Aggregate) : a.after [] = a := rfl

@[simp] theorem after_cons (a : Aggregate) (c : Change) (changes : List Change) :
    a.after (c :: changes) = (a.perform c).after changes := rfl

theorem after_append (a : Aggregate) (earlier later : List Change) :
    a.after (earlier ++ later) = (a.after earlier).after later :=
  List.foldl_append

theorem answers_append (a : Aggregate) (earlier later : List Change) :
    a.answers (earlier ++ later) = a.answers earlier ++ (a.after earlier).answers later := by
  induction earlier generalizing a with
  | nil => rfl
  | cons c rest ih => simp [answers, ih]

/-! One entry is assigned, and no other is touched. -/

theorem map_id_assign (id : ProbeId) (o : Outcome) (entries : List Entry) :
    (Entry.assign id o entries).map Entry.id = entries.map Entry.id := by
  induction entries with
  | nil => rfl
  | cons entry rest ih =>
    simp only [Entry.assign]
    split
    · rename_i same
      simp [same]
    · simp [ih]

theorem find?_assign (id x : ProbeId) (o : Outcome) (entries : List Entry) :
    ((Entry.assign id o entries).find? fun entry => entry.id = x).map Entry.outcome =
      if x = id ∧ id ∈ entries.map Entry.id then some o
      else (entries.find? fun entry => entry.id = x).map Entry.outcome := by
  induction entries with
  | nil => simp [Entry.assign]
  | cons entry rest ih =>
    simp only [Entry.assign]
    split
    · rename_i same
      by_cases hx : x = id
      · simp [hx, same]
      · simp [hx, same, Ne.symm hx]
    · rename_i other
      by_cases hx : entry.id = x
      · have hne : x ≠ id := fun h => other (hx.trans h)
        simp [hx, hne]
      · simp [hx, ih, Ne.symm other]

theorem mem_ids_iff (a : Aggregate) (id : ProbeId) : id ∈ a.ids ↔ ∃ o, a.outcome? id = some o := by
  simp only [ids, outcome?, List.mem_map, Option.map_eq_some_iff]
  constructor
  · rintro ⟨entry, member, rfl⟩
    cases found : a.entries.find? fun e => e.id = entry.id with
    | none => simpa using List.find?_eq_none.mp found entry member
    | some e => exact ⟨_, e, rfl, rfl⟩
  · rintro ⟨_, entry, found, _⟩
    exact ⟨entry, List.mem_of_find?_eq_some found, by simpa using List.find?_some found⟩

theorem outcome?_eq_some_iff {a : Aggregate} (nodup : a.ids.Nodup) (id : ProbeId) (o : Outcome) :
    a.outcome? id = some o ↔ ⟨id, o⟩ ∈ a.entries := by
  simp only [outcome?, Option.map_eq_some_iff]
  constructor
  · rintro ⟨⟨found, _⟩, member, rfl⟩
    have same : found = id := by simpa using List.find?_some member
    exact same ▸ List.mem_of_find?_eq_some member
  · intro member
    cases found : a.entries.find? fun entry => entry.id = id with
    | none => simpa using List.find?_eq_none.mp found _ member
    | some entry =>
      have same : entry.id = id := by simpa using List.find?_some found
      have equal := List.inj_on_of_nodup_map nodup (List.mem_of_find?_eq_some found) member same
      exact ⟨entry, rfl, by rw [equal]⟩

theorem exists_entry_iff {a : Aggregate} (nodup : a.ids.Nodup) (p : Outcome → Prop) :
    (∃ entry ∈ a.entries, p entry.outcome) ↔ ∃ id o, a.outcome? id = some o ∧ p o := by
  simp only [outcome?_eq_some_iff nodup]
  exact ⟨fun ⟨entry, member, holds⟩ => ⟨entry.id, entry.outcome, member, holds⟩,
    fun ⟨id, o, member, holds⟩ => ⟨⟨id, o⟩, member, holds⟩⟩

/-! What an accepted call does, and when a call is refused. -/

theorem checkPending_eq_ok_iff (a : Aggregate) (id : ProbeId) :
    a.checkPending id = .ok () ↔ ∃ o, a.outcome? id = some o ∧ o.isTerminal = false := by
  unfold checkPending
  cases a.outcome? id with
  | none => simp
  | some o => cases terminal : o.isTerminal <;> simp [terminal]

/-- A call is accepted exactly for a pending outcome, which it replaces. -/
theorem resolve_eq_ok_iff (a b : Aggregate) (id : ProbeId) (o : Outcome) :
    a.resolve id o = .ok b ↔
      (∃ old, a.outcome? id = some old ∧ old.isTerminal = false) ∧
        b = ⟨Entry.assign id o a.entries, a.failureSeen || o.isFail⟩ := by
  rw [← checkPending_eq_ok_iff]
  unfold resolve
  cases a.checkPending id with
  | error e => simp [Except.map]
  | ok u => simp [Except.map, eq_comm]

/-- Two ways a call can go, said once for all kinds of calls. -/
theorem perform_cases (a : Aggregate) (c : Change) :
    ((∃ old, a.outcome? c.probe = some old ∧ old.isTerminal = false) ∧
        c.apply a = .ok (a.perform c) ∧
        a.perform c = ⟨Entry.assign c.probe c.outcome a.entries, a.failureSeen || c.outcome.isFail⟩) ∨
      ((∀ old, a.outcome? c.probe = some old → old.isTerminal = true) ∧
        (∃ e, c.apply a = .error e) ∧ a.perform c = a) := by
  unfold perform
  cases applied : c.apply a with
  | ok b =>
    rw [Change.apply_eq_resolve, resolve_eq_ok_iff] at applied
    exact .inl ⟨applied.1, rfl, applied.2⟩
  | error e =>
    refine .inr ⟨fun old found => ?_, ⟨e, rfl⟩, rfl⟩
    by_contra pending
    have accepted := (resolve_eq_ok_iff a _ c.probe c.outcome).mpr
      ⟨⟨old, found, by simpa using pending⟩, rfl⟩
    rw [← Change.apply_eq_resolve, applied] at accepted
    cases accepted

theorem refused_iff (a : Aggregate) (c : Change) :
    (∃ e, c.apply a = .error e) ↔
      ∀ old, a.outcome? c.probe = some old → old.isTerminal = true := by
  rcases perform_cases a c with ⟨⟨old, found, pending⟩, accepted, -⟩ | ⟨closed, refused, -⟩
  · rw [accepted]
    simp only [reduceCtorEq, exists_false, false_iff]
    intro closed
    rw [closed old found] at pending
    cases pending
  · exact ⟨fun _ => closed, fun _ => refused⟩

@[simp] theorem ids_perform (a : Aggregate) (c : Change) : (a.perform c).ids = a.ids := by
  rcases perform_cases a c with ⟨-, -, equal⟩ | ⟨-, -, equal⟩
  · rw [equal]
    exact map_id_assign _ _ _
  · rw [equal]

theorem outcome?_perform_of_accepted {a b : Aggregate} {c : Change} (accepted : c.apply a = .ok b) :
    (a.perform c).outcome? c.probe = some c.outcome := by
  rcases perform_cases a c with ⟨⟨old, found, -⟩, -, equal⟩ | ⟨-, ⟨e, refused⟩, -⟩
  · have member : c.probe ∈ a.entries.map Entry.id := (mem_ids_iff a c.probe).mpr ⟨old, found⟩
    rw [equal]
    simpa [outcome?, member] using find?_assign c.probe c.probe c.outcome a.entries
  · rw [accepted] at refused
    cases refused

theorem outcome?_perform_of_pending {a : Aggregate} {c : Change} {old : Outcome}
    (found : a.outcome? c.probe = some old) (pending : old.isTerminal = false) :
    (a.perform c).outcome? c.probe = some c.outcome := by
  rcases perform_cases a c with ⟨-, accepted, -⟩ | ⟨closed, -, -⟩
  · exact outcome?_perform_of_accepted accepted
  · rw [closed old found] at pending
    cases pending

theorem outcome?_perform_of_ne (a : Aggregate) (c : Change) {id : ProbeId} (other : id ≠ c.probe) :
    (a.perform c).outcome? id = a.outcome? id := by
  rcases perform_cases a c with ⟨-, -, equal⟩ | ⟨-, -, equal⟩
  · rw [equal]
    simpa [outcome?, other] using find?_assign c.probe id c.outcome a.entries
  · rw [equal]

theorem outcome?_perform_of_terminal (a : Aggregate) (c : Change) {id : ProbeId} {o : Outcome}
    (found : a.outcome? id = some o) (terminal : o.isTerminal = true) :
    (a.perform c).outcome? id = some o := by
  by_cases same : id = c.probe
  · subst same
    rcases perform_cases a c with ⟨⟨old, found', pending⟩, -, -⟩ | ⟨-, -, equal⟩
    · rw [found] at found'
      cases found'
      rw [terminal] at pending
      cases pending
    · rw [equal, found]
  · rw [outcome?_perform_of_ne a c same, found]

theorem outcome?_after_of_terminal (a : Aggregate) (changes : List Change) {id : ProbeId}
    {o : Outcome} (found : a.outcome? id = some o) (terminal : o.isTerminal = true) :
    (a.after changes).outcome? id = some o := by
  induction changes generalizing a with
  | nil => exact found
  | cons c rest ih => exact ih _ (outcome?_perform_of_terminal a c found terminal)

@[simp] theorem ids_after (a : Aggregate) (changes : List Change) : (a.after changes).ids = a.ids := by
  induction changes generalizing a with
  | nil => rfl
  | cons c rest ih => rw [after_cons, ih, ids_perform]

/-- No probe occurs twice, and the latch says whether any of them failed. -/
structure Sound (a : Aggregate) : Prop where
  nodup : a.ids.Nodup
  latch : a.failureSeen = true ↔ ∃ id o, a.outcome? id = some o ∧ o.isFail = true

theorem Sound.perform {a : Aggregate} (sound : a.Sound) (c : Change) : (a.perform c).Sound := by
  rcases perform_cases a c with ⟨⟨old, found, pending⟩, accepted, equal⟩ | ⟨-, -, equal⟩
  · refine ⟨by rw [ids_perform]; exact sound.nodup, ?_⟩
    have latch : (a.perform c).failureSeen = (a.failureSeen || c.outcome.isFail) := by rw [equal]
    rw [latch, Bool.or_eq_true, sound.latch]
    constructor
    · rintro (⟨id, o, shown, failed⟩ | failed)
      · exact ⟨id, o, outcome?_perform_of_terminal a c shown (Outcome.isTerminal_of_isFail failed),
          failed⟩
      · exact ⟨_, _, outcome?_perform_of_accepted accepted, failed⟩
    · rintro ⟨id, o, shown, failed⟩
      by_cases same : id = c.probe
      · rw [same, outcome?_perform_of_accepted accepted] at shown
        cases shown
        exact .inr failed
      · rw [outcome?_perform_of_ne a c same] at shown
        exact .inl ⟨id, o, shown, failed⟩
  · rw [equal]
    exact sound

theorem Sound.after {a : Aggregate} (sound : a.Sound) (changes : List Change) :
    (a.after changes).Sound := by
  induction changes generalizing a with
  | nil => exact sound
  | cons c rest ih => exact ih (sound.perform c)

/-! The start: every probe of the order once, in the order of first occurrences. -/

theorem firstOccurrences_concat (order : List ProbeId) (id : ProbeId) :
    firstOccurrences (order ++ [id]) =
      if id ∈ firstOccurrences order then firstOccurrences order
      else firstOccurrences order ++ [id] := by
  unfold firstOccurrences
  rw [List.foldl_append]
  rfl

theorem mem_firstOccurrences (order : List ProbeId) (id : ProbeId) :
    id ∈ firstOccurrences order ↔ id ∈ order := by
  induction order using List.reverseRecOn generalizing id with
  | nil => simp [firstOccurrences]
  | append_singleton order last ih =>
    rw [firstOccurrences_concat]
    split
    · rename_i seen
      have known := (ih last).mp seen
      simp only [ih, List.mem_append, List.mem_singleton]
      exact ⟨.inl, fun h => h.elim (fun m => m) fun h => h ▸ known⟩
    · simp [ih]

theorem firstOccurrences_pairwise (order : List ProbeId) :
    (firstOccurrences order).Pairwise fun x y => order.idxOf x < order.idxOf y := by
  induction order using List.reverseRecOn with
  | nil => simp [firstOccurrences]
  | append_singleton order last ih =>
    have kept : (firstOccurrences order).Pairwise fun x y =>
        (order ++ [last]).idxOf x < (order ++ [last]).idxOf y := by
      refine ih.imp_of_mem fun {x y} hx hy less => ?_
      rw [List.idxOf_append_of_mem ((mem_firstOccurrences order x).mp hx),
        List.idxOf_append_of_mem ((mem_firstOccurrences order y).mp hy)]
      exact less
    rw [firstOccurrences_concat]
    split
    · exact kept
    · rename_i fresh
      rw [mem_firstOccurrences] at fresh
      refine List.pairwise_append.mpr ⟨kept, List.pairwise_singleton _ _, fun x hx y hy => ?_⟩
      have member := (mem_firstOccurrences order x).mp hx
      rw [List.mem_singleton.mp hy, List.idxOf_append_of_mem member,
        List.idxOf_append_of_notMem fresh]
      exact Nat.lt_of_lt_of_le (List.idxOf_lt_length_of_mem member) (Nat.le_add_right _ _)

@[simp] theorem ids_new (order : List ProbeId) : (new order).ids = firstOccurrences order := by
  simp [ids, new, Function.comp_def]

theorem outcome?_new (order : List ProbeId) (id : ProbeId) :
    (new order).outcome? id = if id ∈ order then some (.pending none) else none := by
  have looked : ∀ l : List ProbeId,
      ((l.map fun id => (⟨id, .pending none⟩ : Entry)).find? fun entry => entry.id = id).map
        Entry.outcome = if id ∈ l then some (.pending none) else none := by
    intro l
    induction l with
    | nil => rfl
    | cons x rest ih => by_cases h : x = id <;> simp_all [eq_comm]
  simpa only [outcome?, new, mem_firstOccurrences] using looked (firstOccurrences order)

theorem sound_new (order : List ProbeId) : (new order).Sound := by
  refine ⟨?_, ?_⟩
  · rw [ids_new]
    exact (firstOccurrences_pairwise order).imp fun less equal => by simp [equal] at less
  · refine ⟨fun h => by simp [new] at h, ?_⟩
    rintro ⟨id, o, shown, failed⟩
    rw [outcome?_new] at shown
    split at shown
    · cases shown
      cases failed
    · cases shown

/-! What a sound aggregate says about its run as a whole. -/

section Overall

variable {a : Aggregate} (sound : a.Sound)
include sound

theorem Sound.failureSeen_iff :
    a.failureSeen = true ↔ ∃ entry ∈ a.entries, entry.outcome.isFail = true := by
  rw [sound.latch, exists_entry_iff sound.nodup fun o => o.isFail = true]

theorem Sound.overall_eq_degraded_iff :
    a.overall = .degraded ↔ ∃ entry ∈ a.entries, entry.outcome.isFail = true := by
  rw [← sound.failureSeen_iff]
  unfold overall
  split <;> simp_all
  split <;> simp

theorem Sound.overall_eq_ok_iff :
    a.overall = .ok ↔ ∀ entry ∈ a.entries, entry.outcome.isOk = true := by
  have latch := sound.failureSeen_iff
  unfold overall
  constructor
  · intro h
    split at h
    · cases h
    · split at h
      · rename_i all
        simpa using all
      · cases h
  · intro all
    have clear : a.failureSeen = false := by
      by_contra set
      obtain ⟨entry, member, failed⟩ := latch.mp (by simpa using set)
      rw [Outcome.isFail_of_isOk (all entry member)] at failed
      cases failed
    simp [clear, List.all_eq_true.mpr all]

theorem Sound.overall_eq_running_iff :
    a.overall = .running ↔ (∀ entry ∈ a.entries, entry.outcome.isFail = false) ∧
      ∃ entry ∈ a.entries, entry.outcome.isOk = false := by
  have degraded := sound.overall_eq_degraded_iff
  have ok := sound.overall_eq_ok_iff
  cases status : a.overall with
  | running => simp_all
  | ok =>
    have all := ok.mp status
    simp only [reduceCtorEq, false_iff, not_and, not_exists, Bool.not_eq_false]
    exact fun _ entry member => all entry member
  | degraded =>
    obtain ⟨entry, member, failed⟩ := degraded.mp status
    simp only [reduceCtorEq, false_iff, not_and]
    intro none_failed
    rw [none_failed entry member] at failed
    cases failed

end Overall

theorem isComplete_iff (a : Aggregate) :
    a.isComplete = true ↔ ∀ entry ∈ a.entries, entry.outcome.isTerminal = true :=
  List.all_eq_true

theorem isComplete_iff_pending (a : Aggregate) : a.isComplete = true ↔ a.counts.pending = 0 := by
  simp [isComplete_iff, counts, List.countP_eq_zero, Outcome.isPending]

theorem counts_sum (a : Aggregate) :
    a.counts.ok + a.counts.failed + a.counts.pending = a.entries.length := by
  simp only [counts]
  induction a.entries with
  | nil => rfl
  | cons entry rest ih =>
    have one (o : Outcome) : (if o.isOk = true then 1 else 0) + (if o.isFail = true then 1 else 0)
        + (if o.isPending = true then 1 else 0) = 1 := by cases o <;> rfl
    have here := one entry.outcome
    simp only [List.countP_cons, List.length_cons]
    omega

theorem perform_of_isComplete {a : Aggregate} (sound : a.Sound) (complete : a.isComplete = true)
    (c : Change) : a.perform c = a := by
  rcases perform_cases a c with ⟨⟨old, found, pending⟩, -, -⟩ | ⟨-, -, equal⟩
  · have terminal := (isComplete_iff a).mp complete _ ((outcome?_eq_some_iff sound.nodup _ _).mp found)
    rw [terminal] at pending
    cases pending
  · exact equal

theorem Sound.overall_of_isComplete {a : Aggregate} (sound : a.Sound)
    (complete : a.isComplete = true) :
    a.overall = if ∀ entry ∈ a.entries, entry.outcome.isOk = true then .ok else .degraded := by
  split
  · rename_i all
    exact sound.overall_eq_ok_iff.mpr all
  · rename_i some_other
    push Not at some_other
    obtain ⟨entry, member, other⟩ := some_other
    have terminal := (isComplete_iff a).mp complete entry member
    exact sound.overall_eq_degraded_iff.mpr
      ⟨entry, member, Outcome.isFail_of_isTerminal terminal (by simpa using other)⟩

theorem failureSeen_perform {a : Aggregate} (c : Change) (set : a.failureSeen = true) :
    (a.perform c).failureSeen = true := by
  rcases perform_cases a c with ⟨-, -, equal⟩ | ⟨-, -, equal⟩
  · rw [equal]
    simp [set]
  · rw [equal, set]

/-- A status that is settled stays: the latch is never cleared, and when all is well nothing can
change. -/
theorem overall_perform {a : Aggregate} (sound : a.Sound) (c : Change)
    (settled : a.overall ≠ .running) : (a.perform c).overall = a.overall := by
  cases status : a.overall with
  | running => exact absurd status settled
  | ok =>
    have complete : a.isComplete = true := (isComplete_iff a).mpr fun entry member =>
      Outcome.isTerminal_of_isOk (sound.overall_eq_ok_iff.mp status entry member)
    rw [perform_of_isComplete sound complete, status]
  | degraded =>
    have set := sound.failureSeen_iff.mpr (sound.overall_eq_degraded_iff.mp status)
    unfold overall
    rw [failureSeen_perform c set]
    rfl

theorem overall_after {a : Aggregate} (sound : a.Sound) (changes : List Change)
    (settled : a.overall ≠ .running) : (a.after changes).overall = a.overall := by
  induction changes generalizing a with
  | nil => rfl
  | cons c rest ih =>
    have kept := overall_perform sound c settled
    rw [after_cons, ih (sound.perform c) (by rw [kept]; exact settled), kept]

theorem mem_entries_after {a : Aggregate} (sound : a.Sound) (changes : List Change) {entry : Entry}
    (member : entry ∈ a.entries) (terminal : entry.outcome.isTerminal = true) :
    entry ∈ (a.after changes).entries := by
  have shown := (outcome?_eq_some_iff sound.nodup entry.id entry.outcome).mpr member
  exact (outcome?_eq_some_iff (sound.after changes).nodup entry.id entry.outcome).mp
    (outcome?_after_of_terminal a changes shown terminal)

theorem Sound.entries_eq {a : Aggregate} (sound : a.Sound) :
    a.entries = a.ids.map fun id => ⟨id, (a.outcome? id).getD (.pending none)⟩ := by
  rw [ids, List.map_map]
  refine (List.map_id' a.entries).symm.trans (List.map_congr_left fun entry member => ?_)
  have found := (outcome?_eq_some_iff sound.nodup entry.id entry.outcome).mpr member
  simp [found]

/-- An aggregate is its probes and their outcomes; the latch follows. -/
theorem Sound.eq_of_outcomes {a b : Aggregate} (soundA : a.Sound) (soundB : b.Sound)
    (ids : a.ids = b.ids) (outcomes : ∀ id, a.outcome? id = b.outcome? id) : a = b := by
  have entries : a.entries = b.entries := by
    rw [soundA.entries_eq, soundB.entries_eq, ids]
    simp only [outcomes]
  have latch : a.failureSeen = b.failureSeen := by
    rw [Bool.eq_iff_iff, soundA.latch, soundB.latch]
    simp only [outcomes]
  cases a
  cases b
  simp_all

theorem outcome?_after_of_not_mem (a : Aggregate) {changes : List Change} {id : ProbeId}
    (none_of_it : ∀ c ∈ changes, c.probe ≠ id) : (a.after changes).outcome? id = a.outcome? id := by
  induction changes generalizing a with
  | nil => rfl
  | cons c rest ih =>
    rw [after_cons, ih _ fun c member => none_of_it c (List.mem_cons_of_mem _ member)]
    exact outcome?_perform_of_ne a c (none_of_it c List.mem_cons_self).symm

/-- Recording an outcome for each of some probes sets it where it is still pending. -/
theorem outcome?_after_resolves (a : Aggregate) (outcome : ProbeId → Outcome) {probes : List ProbeId}
    (nodup : probes.Nodup) {id : ProbeId} (member : id ∈ probes) {old : Outcome}
    (found : a.outcome? id = some old) (pending : old.isTerminal = false) :
    (a.after (probes.map fun x => .resolve x (outcome x))).outcome? id = some (outcome id) := by
  induction probes generalizing a with
  | nil => cases member
  | cons x rest ih =>
    obtain ⟨fresh, nodup⟩ := List.nodup_cons.mp nodup
    rw [List.map_cons, after_cons]
    by_cases here : x = id
    · subst here
      rw [outcome?_after_of_not_mem]
      · exact outcome?_perform_of_pending (c := .resolve x (outcome x)) found pending
      · intro c later same
        obtain ⟨y, member, rfl⟩ := List.mem_map.mp later
        exact fresh (same ▸ member)
    · refine ih _ nodup ((List.mem_cons.mp member).resolve_left (Ne.symm here)) ?_
      rwa [outcome?_perform_of_ne a (.resolve x (outcome x)) (Ne.symm here)]

/-- What holds after any history of calls, whatever comes later: the probes are those of the order,
once each and in the order of their first occurrence; latch, overall status and counts follow from
the outcomes; terminal outcomes and settled statuses stay; a refused call changes nothing. -/
theorem after_new_consistent (order : List ProbeId) (changes later : List Change) (call : Change) :
    let a := (new order).after changes
    (a.ids.Nodup ∧ (∀ id, id ∈ a.ids ↔ id ∈ order) ∧
        a.ids.Pairwise fun x y => order.idxOf x < order.idxOf y) ∧
      (a.failureSeen = true ↔ ∃ entry ∈ a.entries, entry.outcome.isFail = true) ∧
      (a.overall = .degraded ↔ ∃ entry ∈ a.entries, entry.outcome.isFail = true) ∧
      (a.overall = .ok ↔ ∀ entry ∈ a.entries, entry.outcome.isOk = true) ∧
      (a.overall = .running ↔ (∀ entry ∈ a.entries, entry.outcome.isFail = false) ∧
        ∃ entry ∈ a.entries, entry.outcome.isOk = false) ∧
      a.counts.ok + a.counts.failed + a.counts.pending = a.entries.length ∧
      (a.isComplete = true ↔ a.counts.pending = 0) ∧
      (∀ entry ∈ a.entries, entry.outcome.isTerminal = true →
        entry ∈ (a.after later).entries) ∧
      (a.overall ≠ .running → (a.after later).overall = a.overall) ∧
      ((∃ e, call.apply a = .error e) ↔ ∀ entry ∈ a.entries, entry.id = call.probe →
        entry.outcome.isTerminal = true) ∧
      (∀ e, call.apply a = .error e → a.perform call = a) := by
  intro a
  have sound : a.Sound := (sound_new order).after changes
  have ids : a.ids = firstOccurrences order := by rw [ids_after, ids_new]
  refine ⟨⟨sound.nodup, ?_, ?_⟩, sound.failureSeen_iff, sound.overall_eq_degraded_iff,
    sound.overall_eq_ok_iff, sound.overall_eq_running_iff, counts_sum a, isComplete_iff_pending a,
    fun _ => mem_entries_after sound later, overall_after sound later, ?_, ?_⟩
  · intro id
    rw [ids, mem_firstOccurrences]
  · rw [ids]
    exact firstOccurrences_pairwise order
  · rw [refused_iff]
    constructor
    · intro closed entry member same
      have shown := (outcome?_eq_some_iff sound.nodup entry.id entry.outcome).mpr member
      exact closed _ (same ▸ shown)
    · intro closed old shown
      exact closed _ ((outcome?_eq_some_iff sound.nodup _ _).mp shown) rfl
  · intro e refused
    unfold perform
    rw [refused]

end Aggregate
end ModulatorHealth
