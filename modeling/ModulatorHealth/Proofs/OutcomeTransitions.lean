import ModulatorHealth.Proofs.TrackerPublication

/-! The way of one probe through a history of calls. A call is refused by what its probe shows and by
nothing else; one that is accepted closes the probe or leaves it open, as its own outcome is terminal or
not. So an open probe can be closed once, while an accepted resolve need not close it. -/
namespace ModulatorHealth

namespace Aggregate

def Change.settles (c : Change) (id : ProbeId) : Bool := c.resolves id && c.outcome.isTerminal

theorem Change.settles_iff (c : Change) (id : ProbeId) :
    c.settles id = true ↔ c.probe = id ∧ c.outcome.isTerminal = true := by
  cases c <;> simp [settles, resolves, probe, outcome, Outcome.isTerminal]

theorem Change.settles_of_ne {c : Change} {id : ProbeId} (other : c.probe ≠ id) :
    c.settles id = false := by
  rw [Bool.eq_false_iff, ne_eq, c.settles_iff]
  exact fun settles => other settles.1

def answered (a : Aggregate) (changes : List Change) : List (Change × Except Rejection Unit) :=
  changes.zip (a.answers changes)

def accepted (a : Aggregate) (changes : List Change) : List Change :=
  ((a.answered changes).filter fun call => call.2.isOk).map Prod.fst

/-- The probe belongs to the run and has no terminal outcome yet. -/
def isOpen (a : Aggregate) (id : ProbeId) : Bool := (a.outcome? id).any Outcome.isPending

@[simp] theorem answered_nil (a : Aggregate) : a.answered [] = [] := rfl

@[simp] theorem answered_cons (a : Aggregate) (c : Change) (changes : List Change) :
    a.answered (c :: changes) =
      (c, (c.apply a).map fun _ => ()) :: (a.perform c).answered changes := rfl

theorem apply_cases (a : Aggregate) (c : Change) :
    (c.probe ∉ a.ids ∧ a.isOpen c.probe = false ∧ c.apply a = .error (.unknownProbe c.probe)) ∨
      (c.probe ∈ a.ids ∧ a.isOpen c.probe = false ∧ c.apply a = .error (.alreadyTerminal c.probe)) ∨
      c.probe ∈ a.ids ∧ a.isOpen c.probe = true ∧ c.apply a = .ok (a.perform c) := by
  rw [mem_ids_iff, perform, Change.apply_eq_resolve, resolve, checkPending, isOpen]
  cases a.outcome? c.probe with
  | none => exact .inl ⟨by simp, rfl, rfl⟩
  | some o =>
    cases terminal : o.isTerminal with
    | true =>
      refine .inr (.inl ⟨⟨o, rfl⟩, ?_, ?_⟩)
      · simp [Outcome.isPending, terminal]
      · simp [terminal, Except.map]
    | false =>
      refine .inr (.inr ⟨⟨o, rfl⟩, ?_, ?_⟩)
      · simp [Outcome.isPending, terminal]
      · simp [terminal, Except.map]

theorem isOk_apply (a : Aggregate) (c : Change) :
    ((c.apply a).map fun _ => ()).isOk = a.isOpen c.probe := by
  rcases apply_cases a c with ⟨-, shut, refused⟩ | ⟨-, shut, refused⟩ | ⟨-, opened, accepted⟩
  · rw [refused, shut]; rfl
  · rw [refused, shut]; rfl
  · rw [accepted, opened]; rfl

theorem accepted_cons (a : Aggregate) (c : Change) (changes : List Change) :
    a.accepted (c :: changes) =
      if a.isOpen c.probe then c :: (a.perform c).accepted changes
      else (a.perform c).accepted changes := by
  rw [accepted, answered_cons, List.filter_cons]
  simp only [isOk_apply]
  split <;> rfl

theorem isOpen_new (order : List ProbeId) (id : ProbeId) :
    (new order).isOpen id = decide (id ∈ order) := by
  by_cases known : id ∈ order
  · simp [isOpen, outcome?_new, known, Outcome.isPending, Outcome.isTerminal]
  · simp [isOpen, outcome?_new, known]

theorem isOpen_perform (a : Aggregate) (c : Change) (id : ProbeId) :
    (a.perform c).isOpen id = (a.isOpen id && !c.settles id) := by
  by_cases here : c.probe = id
  · subst here
    rcases apply_cases a c with ⟨-, shut, refused⟩ | ⟨-, shut, refused⟩ | ⟨-, opened, accepted⟩
    · simp [perform, refused, shut]
    · simp [perform, refused, shut]
    · have settles : c.settles c.probe = c.outcome.isTerminal := by
        rw [Bool.eq_iff_iff, c.settles_iff]
        simp
      rw [isOpen, outcome?_perform_of_accepted accepted, opened, settles]
      rfl
  · rw [isOpen, outcome?_perform_of_ne a c (Ne.symm here), Change.settles_of_ne here, ← isOpen]
    simp

/-- Over a history a probe is settled as often as it is closed. By induction on the history, from what
one call closes. -/
theorem settles_add_isOpen (a : Aggregate) (changes : List Change) (id : ProbeId) :
    (a.accepted changes).countP (·.settles id) + ((a.after changes).isOpen id).toNat =
      (a.isOpen id).toNat := by
  induction changes generalizing a with
  | nil => simp [accepted]
  | cons c rest ih =>
    have later := ih (a.perform c)
    rw [isOpen_perform] at later
    rw [accepted_cons, after_cons]
    cases settles : c.settles id with
    | false =>
      rw [settles, Bool.not_false, Bool.and_true] at later
      split <;> simpa [settles] using later
    | true =>
      have here : c.probe = id := ((c.settles_iff id).mp settles).1
      rw [settles, Bool.not_true, Bool.and_false] at later
      subst here
      split
      · rename_i opened
        rw [List.countP_cons, settles, opened]
        simp only [if_true, Bool.toNat_true, Bool.toNat_false] at later ⊢
        omega
      · rename_i shut
        rwa [Bool.eq_false_iff.mpr shut]

theorem countP_settles_le_one (a : Aggregate) (changes : List Change) (id : ProbeId) :
    (a.accepted changes).countP (·.settles id) ≤ 1 := by
  have law := settles_add_isOpen a changes id
  have bound := (a.isOpen id).toNat_le
  omega

theorem isOpen_after_eq_false_iff {a : Aggregate} {id : ProbeId} (opened : a.isOpen id = true)
    (changes : List Change) :
    (a.after changes).isOpen id = false ↔ ∃ c ∈ a.accepted changes, c.settles id = true := by
  have law := settles_add_isOpen a changes id
  have counted : 0 < (a.accepted changes).countP (·.settles id) ↔ _ := List.countP_pos_iff
  rw [← counted]
  rw [opened, Bool.toNat_true] at law
  cases now : (a.after changes).isOpen id with
  | false =>
    rw [now, Bool.toNat_false] at law
    exact iff_of_true rfl (by omega)
  | true =>
    rw [now, Bool.toNat_true] at law
    exact iff_of_false (by simp) (by omega)

theorem isOpen_iff (a : Aggregate) (id : ProbeId) :
    a.isOpen id = true ↔ ∃ progress, a.outcome? id = some (.pending progress) := by
  rw [isOpen]
  rcases a.outcome? id with _ | _ | _ | _ <;> simp [Outcome.isPending, Outcome.isTerminal]

theorem mem_of_mem_accepted {a : Aggregate} {changes : List Change} {c : Change}
    (member : c ∈ a.accepted changes) : c ∈ changes := by
  obtain ⟨⟨c', answer⟩, answered, rfl⟩ := List.mem_map.mp member
  exact (List.of_mem_zip (List.mem_filter.mp answered).1).1

/-- Where every resolve is terminal, to be resolved is to be settled. -/
theorem countP_resolves_le_one (a : Aggregate) {changes : List Change} {id : ProbeId}
    (terminal : ∀ c ∈ changes, c.resolves id = true → c.outcome.isTerminal = true) :
    (a.accepted changes).countP (·.resolves id) ≤ 1 := by
  refine le_of_eq_of_le (List.countP_congr fun c member => ?_) (countP_settles_le_one a changes id)
  have known := terminal c (mem_of_mem_accepted member)
  simp only [Change.settles, Bool.and_eq_true]
  exact ⟨fun resolves => ⟨resolves, known resolves⟩, And.left⟩

theorem refusals_after_new (order : List ProbeId) (earlier : List Change) (c : Change) :
    let a := (new order).after earlier
    (c.apply a = .error (.unknownProbe c.probe) ↔ c.probe ∉ order) ∧
      (c.apply a = .error (.alreadyTerminal c.probe) ↔
        c.probe ∈ order ∧ ∃ c' ∈ (new order).accepted earlier, c'.settles c.probe = true) ∧
      ∀ e, c.apply a = .error e → e = .unknownProbe c.probe ∨ e = .alreadyTerminal c.probe := by
  intro a
  have ids : c.probe ∈ a.ids ↔ c.probe ∈ order := by
    rw [ids_after, ids_new, mem_firstOccurrences]
  have settled : c.probe ∈ order ∧ a.isOpen c.probe = false ↔
      c.probe ∈ order ∧ ∃ c' ∈ (new order).accepted earlier, c'.settles c.probe = true :=
    and_congr_right fun known =>
      isOpen_after_eq_false_iff (by rw [isOpen_new, decide_eq_true known]) earlier
  rw [← settled, ← ids]
  rcases apply_cases a c with ⟨unknown, shut, refused⟩ | ⟨known, shut, refused⟩ |
    ⟨known, opened, accepted⟩
  · simp [refused, unknown]
  · simp [refused, known, shut]
  · simp [accepted, known, opened]

theorem outcome?_of_apply {a b : Aggregate} {c : Change} (accepted : c.apply a = .ok b)
    (later : List Change) :
    (∃ progress, a.outcome? c.probe = some (.pending progress)) ∧
      b.outcome? c.probe = some c.outcome ∧
      (c.outcome.isTerminal = true → (b.after later).outcome? c.probe = some c.outcome) := by
  rcases apply_cases a c with ⟨-, -, refused⟩ | ⟨-, -, refused⟩ | ⟨-, opened, same⟩
  · cases accepted.symm.trans refused
  · cases accepted.symm.trans refused
  · have shown := outcome?_perform_of_accepted accepted
    cases accepted.symm.trans same
    exact ⟨(isOpen_iff a c.probe).mp opened, shown, outcome?_after_of_terminal _ later shown⟩

end Aggregate

namespace Tracker

/-- What an operation asks of the aggregate, apart from a new run. -/
def Operation.change? : Operation → Option Aggregate.Change
  | .progress id comment => some (.setProgress id comment)
  | .resolve id outcome => some (.resolve id outcome)
  | .reset | .subscribe | .take _ => none

theorem aggregate_perform {t : Tracker} {op : Operation} (within : op ≠ .reset) :
    (t.perform op).1.aggregate = t.aggregate.after op.change?.toList := by
  cases op with
  | progress id comment =>
    simp only [perform, progress, Operation.change?, Option.toList_some, Aggregate.after_cons,
      Aggregate.after_nil, Aggregate.perform, Aggregate.Change.apply]
    cases t.aggregate.setProgress id comment <;> rfl
  | resolve id o =>
    simp only [perform, resolve, Operation.change?, Option.toList_some, Aggregate.after_cons,
      Aggregate.after_nil, Aggregate.perform, Aggregate.Change.apply]
    cases t.aggregate.resolve id o <;> rfl
  | reset => exact absurd rfl within
  | subscribe | take k => rfl

theorem aggregate_after {t : Tracker} {history : List Operation} (within : .reset ∉ history) :
    (t.after history).aggregate = t.aggregate.after (history.filterMap Operation.change?) := by
  induction history generalizing t with
  | nil => rfl
  | cons op later ih =>
    rw [List.mem_cons, not_or] at within
    rw [after_cons, ih within.2, aggregate_perform (Ne.symm within.1), ← Aggregate.after_append]
    congr 1
    cases asked : op.change? <;> simp [asked]

end Tracker

namespace Aggregate

/-- The history of any run, with resolves of any outcome. A probe is settled at most once. A call is
refused as unknown exactly outside the order, as already terminal exactly after the call that settled
its probe, and in no other way. One that is accepted replaces a pending outcome by its own, for good if
that is terminal; if it is not, the probe is pending as before. Hence resolves with terminal outcomes
alone are accepted at most once for each probe. A tracker does the same from one reset to the next. -/
theorem settled_at_most_once (order : List ProbeId) (history : List Change) (id : ProbeId) :
    let start := new order
    (start.accepted history).countP (·.settles id) ≤ 1 ∧
      ((∀ c ∈ history, c.resolves id = true → c.outcome.isTerminal = true) →
        (start.accepted history).countP (·.resolves id) ≤ 1) ∧
      (∀ earlier c later, history = earlier ++ c :: later → c.probe = id →
        let a := start.after earlier
        (c.apply a = .error (.unknownProbe id) ↔ id ∉ order) ∧
        (c.apply a = .error (.alreadyTerminal id) ↔
          id ∈ order ∧ ∃ c' ∈ start.accepted earlier, c'.settles id = true) ∧
        (∀ e, c.apply a = .error e → e = .unknownProbe id ∨ e = .alreadyTerminal id) ∧
        ∀ b, c.apply a = .ok b →
          (∃ progress, a.outcome? id = some (.pending progress)) ∧
          b.outcome? id = some c.outcome ∧
          (c.outcome.isTerminal = true → (start.after history).outcome? id = some c.outcome)) ∧
      ∀ (t : Tracker) (operations : List Tracker.Operation), t.order = order →
        .reset ∉ operations → operations.filterMap Tracker.Operation.change? = history →
        let now := t.reset.after operations
        now.aggregate = start.after history ∧ ∀ o,
          (now.resolve id o).map (fun done => done.1.aggregate) = (start.after history).resolve id o := by
  intro start
  refine ⟨countP_settles_le_one _ _ _, countP_resolves_le_one start, ?_, ?_⟩
  · rintro earlier c later rfl rfl a
    obtain ⟨unknown, terminal, others⟩ := refusals_after_new order earlier c
    refine ⟨unknown, terminal, others, fun b accepted => ?_⟩
    have next : a.perform c = b := by rw [perform, accepted]
    rw [after_append, after_cons, next]
    exact outcome?_of_apply accepted later
  · rintro t operations rfl within rfl now
    have led : now.aggregate = start.after (operations.filterMap Tracker.Operation.change?) :=
      Tracker.aggregate_after within
    refine ⟨led, fun o => ?_⟩
    rw [Tracker.resolve, ← led]
    cases now.aggregate.resolve id o <;> rfl

/-- A resolve and a mark of one probe, both accepted: in between the probe is pending still. -/
theorem resolve_accepts_pending :
    let history : List Change :=
      [.resolve .underruns (.pending (some "again")), .markOk .underruns none]
    standard.answers history = [.ok (), .ok ()] ∧
      (standard.after (history.take 1)).outcome? .underruns = some (.pending (some "again")) ∧
      ¬ (standard.accepted history).countP (·.resolves .underruns) ≤ 1 :=
  ⟨rfl, rfl, by decide⟩

end Aggregate
end ModulatorHealth
