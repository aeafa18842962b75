import ModulatorHealth.Proofs.OutcomeTransitions
import Mathlib.Data.List.Count
import Mathlib.Data.List.Perm.Basic

/-! Calls on different probes do not meet. What a probe shows, and what the calls on it are answered,
is a matter of the calls on this probe alone and of their order; and the outcomes of the probes are all
that there is of an aggregate. -/
namespace ModulatorHealth.Aggregate

variable {a b : Aggregate}

theorem answer_eq_checkPending (a : Aggregate) (c : Change) :
    ((c.apply a).map fun _ => ()) = a.checkPending c.probe := by
  rw [Change.apply_eq_resolve, resolve]
  cases a.checkPending c.probe <;> rfl

theorem answer_congr {c : Change} (shown : a.outcome? c.probe = b.outcome? c.probe) :
    ((c.apply a).map fun _ => ()) = (c.apply b).map fun _ => () := by
  rw [answer_eq_checkPending, answer_eq_checkPending, checkPending, checkPending, shown]

theorem outcome?_perform_congr {c : Change} (shown : a.outcome? c.probe = b.outcome? c.probe) :
    (a.perform c).outcome? c.probe = (b.perform c).outcome? c.probe := by
  rcases perform_cases a c with ⟨⟨old, found, pending⟩, -, -⟩ | ⟨closed, -, kept⟩
  · rw [outcome?_perform_of_pending found pending,
      outcome?_perform_of_pending (shown.symm.trans found) pending]
  · rcases perform_cases b c with ⟨⟨old, found, pending⟩, -, -⟩ | ⟨-, -, kept'⟩
    · rw [closed old (shown.trans found)] at pending
      cases pending
    · rw [kept, kept', shown]

/-- A history as one probe meets it: the calls on other probes could as well be missing. -/
theorem course_of_probe {id : ProbeId} (shown : a.outcome? id = b.outcome? id)
    (changes : List Change) :
    (a.after changes).outcome? id = (b.after (changes.filter (·.probe = id))).outcome? id ∧
      (a.answered changes).filter (·.1.probe = id) =
        b.answered (changes.filter (·.probe = id)) := by
  induction changes generalizing a b with
  | nil => exact ⟨shown, rfl⟩
  | cons c rest ih =>
    by_cases here : c.probe = id
    · subst here
      obtain ⟨outcome, answers⟩ := ih (outcome?_perform_congr shown)
      simp only [after_cons, answered_cons, List.filter_cons, decide_true, if_true]
      exact ⟨outcome, by rw [answers, answer_congr shown]⟩
    · have untouched : (a.perform c).outcome? id = b.outcome? id :=
        (outcome?_perform_of_ne a c (Ne.symm here)).trans shown
      obtain ⟨outcome, answers⟩ := ih untouched
      simp only [after_cons, answered_cons, List.filter_cons, here, decide_false]
      exact ⟨outcome, answers⟩

theorem perm_of_same_courses {α : Type} (probe : α → ProbeId) {s t : List α}
    (same : ∀ id, s.filter (probe · = id) = t.filter (probe · = id)) : s.Perm t := by
  classical
  refine List.perm_iff_count.mpr fun x => ?_
  have course (l : List α) : (l.filter (probe · = probe x)).count x = l.count x :=
    List.count_filter (by simp)
  rw [← course s, ← course t, same]

theorem getElem?_assign_of_ne {entries : List Entry} {id : ProbeId} (o : Outcome) {i : Nat}
    {entry : Entry} (found : entries[i]? = some entry) (other : entry.id ≠ id) :
    (Entry.assign id o entries)[i]? = some entry := by
  induction entries generalizing i with
  | nil => simp at found
  | cons first rest ih =>
    rw [Entry.assign]
    cases i with
    | zero =>
      simp only [List.getElem?_cons_zero, Option.some.injEq] at found
      subst found
      simp [other]
    | succ i =>
      split
      · exact found
      · exact ih found

theorem getElem?_entries_perform (a : Aggregate) (c : Change) {i : Nat} {entry : Entry}
    (found : a.entries[i]? = some entry) (other : entry.id ≠ c.probe) :
    (a.perform c).entries[i]? = some entry := by
  rcases perform_cases a c with ⟨-, -, done⟩ | ⟨-, -, kept⟩
  · rw [done]
    exact getElem?_assign_of_ne _ found other
  · rw [kept, found]

/-- Two ways to order calls that agree on every probe, from any state of a run: both lead to the same
aggregate, and every call gets the same answer in both, accepted, unknown or already terminal. -/
theorem after_eq_of_same_courses (order : List ProbeId) (earlier : List Change) {s t : List Change}
    (same : ∀ id, s.filter (·.probe = id) = t.filter (·.probe = id)) :
    let a := (new order).after earlier
    a.after s = a.after t ∧
      (a.answered s).Perm (a.answered t) ∧
      (∀ id, (a.answered s).filter (·.1.probe = id) = (a.answered t).filter (·.1.probe = id)) ∧
      ∀ (call : Change) (i : Nat) (entry : Entry), a.entries[i]? = some entry →
        entry.id ≠ call.probe → (a.perform call).entries[i]? = some entry := by
  intro a
  have sound : a.Sound := (sound_new order).after earlier
  have courses (id : ProbeId) : (a.after s).outcome? id = (a.after t).outcome? id ∧
      (a.answered s).filter (·.1.probe = id) = (a.answered t).filter (·.1.probe = id) := by
    have shown : a.outcome? id = a.outcome? id := rfl
    obtain ⟨outcome, answers⟩ := course_of_probe shown s
    obtain ⟨outcome', answers'⟩ := course_of_probe shown t
    rw [outcome, outcome', answers, answers', same]
    exact ⟨rfl, rfl⟩
  refine ⟨?_, perm_of_same_courses (·.1.probe) fun id => (courses id).2, fun id => (courses id).2,
    fun call i entry => getElem?_entries_perform a call⟩
  exact (sound.after s).eq_of_outcomes (sound.after t)
    ((ids_after a s).trans (ids_after a t).symm) fun id => (courses id).1

/-- Two probes of a run, with the calls on them interleaved in two ways; each gets its outcome and a call
that comes too late, and a third probe is unknown. -/
theorem after_eq_two_interleavings :
    let s : List Change := [.setProgress .underruns "1/3", .markFail .latePackets "late",
      .resolve .underruns (.ok none), .markOk .sampleRate none, .setProgress .latePackets "2/3",
      .markFail .underruns "again"]
    let t : List Change := [.markOk .sampleRate none, .markFail .latePackets "late",
      .setProgress .latePackets "2/3", .setProgress .underruns "1/3", .resolve .underruns (.ok none),
      .markFail .underruns "again"]
    let a := new [.underruns, .latePackets]
    a.answers s = [.ok (), .ok (), .ok (), .error (.unknownProbe .sampleRate),
        .error (.alreadyTerminal .latePackets), .error (.alreadyTerminal .underruns)] ∧
      (∀ id, s.filter (·.probe = id) = t.filter (·.probe = id)) ∧ s ≠ t ∧
      a.after s = a.after t ∧ (a.answered s).Perm (a.answered t) := by
  intro s t a
  have same (id : ProbeId) : s.filter (·.probe = id) = t.filter (·.probe = id) := by
    cases id <;> rfl
  obtain ⟨states, answers, -⟩ := after_eq_of_same_courses [.underruns, .latePackets] [] same
  refine ⟨rfl, same, fun equal => ?_, states, answers⟩
  simp [s, t] at equal

end ModulatorHealth.Aggregate
