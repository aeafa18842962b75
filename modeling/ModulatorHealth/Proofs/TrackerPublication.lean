import ModulatorHealth.Tracker
import ModulatorHealth.Proofs.AggregateHistory

/-! What subscribers learn of a tracker. It publishes each change of its aggregate and nothing else, hence
a subscriber has news exactly if something changed since it looked, and what it saw is current
otherwise. -/
namespace ModulatorHealth.Tracker

inductive Operation where
  | progress (id : ProbeId) (comment : String)
  | resolve (id : ProbeId) (outcome : Outcome)
  | reset
  | subscribe
  | take (subscriber : Nat)

/-- The tracker after an operation, and what the operation logs. Of an outcome that is refused only the
caller learns. -/
def perform (t : Tracker) : Operation → Tracker × List Log.Event
  | .progress id comment => t.progress id comment
  | .resolve id outcome =>
    match t.resolve id outcome with
    | .ok done => done
    | .error _ => (t, [])
  | .reset => (t.reset, [])
  | .subscribe => (t.subscribe.1, [])
  | .take subscriber => ((t.take subscriber).1, [])

def after (t : Tracker) (history : List Operation) : Tracker :=
  history.foldl (fun t op => (t.perform op).1) t

/-- The probe belongs to the run and is pending, so that a word on it or its outcome is accepted. -/
def Accepts (t : Tracker) (id : ProbeId) : Prop :=
  ∃ o, t.aggregate.outcome? id = some o ∧ o.isTerminal = false

/-- A reset, or an accepted progress or resolve. -/
def Changes (t : Tracker) : Operation → Prop
  | .progress id _ | .resolve id _ => t.Accepts id
  | .reset => True
  | .subscribe | .take _ => False

def Looks (t : Tracker) (subscriber : Nat) (op : Operation) : Prop :=
  op = .subscribe ∧ subscriber = t.seen.length ∨ op = .take subscriber ∧ subscriber < t.seen.length

def ChangesDuring (t : Tracker) (history : List Operation) : Prop :=
  ∃ earlier op later, history = earlier ++ op :: later ∧ (t.after earlier).Changes op

section Operations

variable {t : Tracker} {id : ProbeId}

theorem apply_of_accepts {c : Aggregate.Change} (accepts : t.Accepts c.probe) :
    ∃ a, c.apply t.aggregate = .ok a ∧ a.outcome? c.probe = some c.outcome := by
  obtain ⟨o, found, pending⟩ := accepts
  rcases t.aggregate.perform_cases c with ⟨-, accepted, -⟩ | ⟨closed, -, -⟩
  · exact ⟨_, accepted, Aggregate.outcome?_perform_of_accepted accepted⟩
  · rw [closed o found] at pending
    cases pending

theorem progress_of_accepts (accepts : t.Accepts id) (comment : String) :
    ∃ a, t.aggregate.setProgress id comment = .ok a ∧
      a.outcome? id = some (.pending (some comment)) ∧ t.progress id comment = (t.publish a, []) := by
  obtain ⟨a, accepted, shown⟩ := apply_of_accepts (c := .setProgress id comment) accepts
  rw [Aggregate.Change.apply] at accepted
  exact ⟨a, accepted, shown, by rw [progress, accepted]⟩

theorem progress_of_not_accepts (refuses : ¬ t.Accepts id) (comment : String) :
    ∃ message, t.progress id comment = (t, [⟨.warn, [], message⟩]) := by
  rcases t.aggregate.perform_cases (.setProgress id comment) with ⟨accepts, -⟩ | ⟨-, ⟨e, refused⟩, -⟩
  · exact absurd accepts refuses
  · rw [Aggregate.Change.apply] at refused
    exact ⟨_, by rw [progress, refused]⟩

theorem resolve_eq_ok_iff {t' : Tracker} {o : Outcome} {events : List Log.Event} :
    t.resolve id o = .ok (t', events) ↔
      ∃ a, t.aggregate.resolve id o = .ok a ∧ t' = t.publish a ∧ events = [outcomeEvent id o] := by
  unfold resolve
  cases t.aggregate.resolve id o with
  | error e => simp [Except.map]
  | ok a => simp [Except.map, eq_comm]

theorem resolve_of_accepts (accepts : t.Accepts id) (o : Outcome) :
    ∃ a, t.aggregate.resolve id o = .ok a ∧ a.outcome? id = some o ∧
      t.resolve id o = .ok (t.publish a, [outcomeEvent id o]) := by
  obtain ⟨a, accepted, shown⟩ := apply_of_accepts (c := .resolve id o) accepts
  rw [Aggregate.Change.apply] at accepted
  exact ⟨a, accepted, shown, resolve_eq_ok_iff.mpr ⟨a, accepted, rfl, rfl⟩⟩

theorem resolve_of_not_accepts (refuses : ¬ t.Accepts id) (o : Outcome) :
    ∃ e, t.resolve id o = .error e := by
  rw [resolve]
  cases recorded : t.aggregate.resolve id o with
  | ok a => exact absurd ((t.aggregate.resolve_eq_ok_iff a id o).mp recorded).1 refuses
  | error e => exact ⟨e, rfl⟩

theorem level_outcomeEvent (id : ProbeId) (o : Outcome) :
    (outcomeEvent id o).level = .warn ↔ o.isFail = true := by
  cases o <;> simp [outcomeEvent, Outcome.isFail]

/-- What one operation can do: it publishes if it is a change, and else touches nothing but marks of what
was seen. -/
theorem perform_cases (t : Tracker) (op : Operation) :
    (t.Changes op ∧ ∃ a, (t.perform op).1 = t.publish a) ∨
      ¬ t.Changes op ∧ ∃ seen, (t.perform op).1 = { t with seen := seen } := by
  cases op with
  | progress id comment =>
    by_cases accepts : t.Accepts id
    · obtain ⟨a, -, -, done⟩ := progress_of_accepts accepts comment
      exact .inl ⟨accepts, a, by rw [perform, done]⟩
    · obtain ⟨message, done⟩ := progress_of_not_accepts accepts comment
      exact .inr ⟨accepts, t.seen, by rw [perform, done]⟩
  | resolve id o =>
    by_cases accepts : t.Accepts id
    · obtain ⟨a, -, -, done⟩ := resolve_of_accepts accepts o
      exact .inl ⟨accepts, a, by simp [perform, done]⟩
    · obtain ⟨e, done⟩ := resolve_of_not_accepts accepts o
      exact .inr ⟨accepts, t.seen, by simp [perform, done]⟩
  | reset => exact .inl ⟨trivial, _, rfl⟩
  | subscribe => exact .inr ⟨id, _, rfl⟩
  | take k => exact .inr ⟨id, _, rfl⟩

theorem seen_perform (t : Tracker) (op : Operation) :
    (t.perform op).1.seen =
      match op with
      | .progress _ _ | .resolve _ _ | .reset => t.seen
      | .subscribe => t.seen ++ [t.published]
      | .take k => t.seen.set k t.published := by
  cases op with
  | progress id comment =>
    simp only [perform, progress]
    split <;> rfl
  | resolve id o =>
    simp only [perform, resolve]
    cases t.aggregate.resolve id o <;> rfl
  | reset | subscribe | take k => rfl

end Operations

section Histories

variable {t : Tracker} {subscriber mark : Nat}

@[simp] theorem after_nil (t : Tracker) : t.after [] = t := rfl

@[simp] theorem after_cons (t : Tracker) (op : Operation) (later : List Operation) :
    t.after (op :: later) = (t.perform op).1.after later := rfl

theorem after_append (t : Tracker) (earlier later : List Operation) :
    t.after (earlier ++ later) = (t.after earlier).after later := List.foldl_append

theorem changesDuring_nil (t : Tracker) : ¬ t.ChangesDuring [] := by
  rintro ⟨earlier, op, later, split, -⟩
  simp at split

theorem changesDuring_cons (t : Tracker) (op : Operation) (later : List Operation) :
    t.ChangesDuring (op :: later) ↔ t.Changes op ∨ (t.perform op).1.ChangesDuring later := by
  constructor
  · rintro ⟨earlier, op', later', split, change⟩
    cases earlier with
    | nil =>
      cases split
      exact .inl change
    | cons first earlier =>
      cases split
      exact .inr ⟨earlier, op', later', rfl, change⟩
  · rintro (change | ⟨earlier, op', later', rfl, change⟩)
    · exact ⟨[], op, later, rfl, change⟩
    · exact ⟨op :: earlier, op', later', rfl, change⟩

/-- By induction on the history, from what its first operation can do. -/
theorem after_cases (t : Tracker) (history : List Operation) :
    (t.ChangesDuring history ∧ t.published < (t.after history).published) ∨
      ¬ t.ChangesDuring history ∧ (t.after history).published = t.published ∧
        (t.after history).aggregate = t.aggregate := by
  induction history generalizing t with
  | nil => exact .inr ⟨t.changesDuring_nil, rfl, rfl⟩
  | cons op later ih =>
    rw [changesDuring_cons, after_cons]
    rcases perform_cases t op with ⟨change, a, done⟩ | ⟨same, seen, done⟩
    · have more : (t.perform op).1.published = t.published + 1 := by rw [done]; rfl
      rcases ih (t.perform op).1 with ⟨-, grown⟩ | ⟨-, still, -⟩
      · exact .inl ⟨.inl change, by omega⟩
      · exact .inl ⟨.inl change, by omega⟩
    · have still : (t.perform op).1.published = t.published := by rw [done]
      have kept : (t.perform op).1.aggregate = t.aggregate := by rw [done]
      rcases ih (t.perform op).1 with ⟨change, grown⟩ | ⟨none, published, aggregate⟩
      · exact .inl ⟨.inr change, still ▸ grown⟩
      · exact .inr ⟨not_or.mpr ⟨same, none⟩, published.trans still, aggregate.trans kept⟩

theorem order_after (t : Tracker) (history : List Operation) : (t.after history).order = t.order := by
  induction history generalizing t with
  | nil => rfl
  | cons op later ih =>
    rw [after_cons, ih]
    rcases perform_cases t op with ⟨-, a, done⟩ | ⟨-, seen, done⟩
    · rw [done]
      rfl
    · rw [done]

theorem seen_perform_of_ne {op : Operation} (marked : t.seen[subscriber]? = some mark)
    (other : op ≠ .take subscriber) : (t.perform op).1.seen[subscriber]? = some mark := by
  rw [seen_perform]
  cases op with
  | progress | resolve | reset => exact marked
  | subscribe =>
    have known : subscriber < t.seen.length := (List.getElem?_eq_some_iff.mp marked).1
    rw [List.getElem?_append_left known, marked]
  | take k =>
    have ne : k ≠ subscriber := fun same => other (same ▸ rfl)
    rw [List.getElem?_set_ne ne, marked]

theorem seen_after {later : List Operation} (marked : t.seen[subscriber]? = some mark)
    (unread : .take subscriber ∉ later) : (t.after later).seen[subscriber]? = some mark := by
  induction later generalizing t with
  | nil => exact marked
  | cons op later ih =>
    rw [List.mem_cons, not_or] at unread
    exact ih (seen_perform_of_ne marked (Ne.symm unread.1)) unread.2

theorem seen_of_looks {op : Operation} (looks : t.Looks subscriber op) :
    (t.perform op).1.seen[subscriber]? = some t.published := by
  rw [seen_perform]
  rcases looks with ⟨rfl, rfl⟩ | ⟨rfl, known⟩
  · simp
  · simp [known]

theorem after_of_looks {op : Operation} (looks : t.Looks subscriber op) :
    (t.perform op).1.published = t.published ∧ (t.perform op).1.aggregate = t.aggregate := by
  rcases looks with ⟨rfl, -⟩ | ⟨rfl, -⟩ <;> exact ⟨rfl, rfl⟩

theorem hasChanged_after {look : Operation} {later : List Operation} (looks : t.Looks subscriber look)
    (unread : .take subscriber ∉ later) :
    let now := (t.perform look).1.after later
    (now.hasChanged subscriber = true ↔ (t.perform look).1.ChangesDuring later) ∧
      (now.hasChanged subscriber = false → now.aggregate = t.aggregate) := by
  intro now
  have marked : now.seen[subscriber]? = some t.published := seen_after (seen_of_looks looks) unread
  have news : now.hasChanged subscriber = (t.published != now.published) := by
    rw [hasChanged, marked]
  obtain ⟨published, aggregate⟩ := after_of_looks looks
  rw [news]
  -- The mark is as high as the count was at the look, and the count grows by changes alone.
  rcases after_cases (t.perform look).1 later with ⟨change, grown⟩ | ⟨none, still, kept⟩
  · have other : t.published ≠ now.published := by
      rw [published] at grown
      exact Nat.ne_of_lt grown
    simp [other, change]
  · have same : t.published = now.published := (still.trans published).symm
    simp only [same, bne_self_eq_false, Bool.false_eq_true, none, true_and]
    exact fun _ => kept.trans aggregate

theorem known_of_not_looks {op : Operation} (known : subscriber < (t.perform op).1.seen.length)
    (other : ¬ t.Looks subscriber op) : subscriber < t.seen.length ∧ .take subscriber ≠ op := by
  rw [seen_perform] at known
  cases op with
  | progress | resolve | reset => exact ⟨known, by simp⟩
  | subscribe =>
    have before : subscriber ≠ t.seen.length := fun same => other (.inl ⟨rfl, same⟩)
    simp only [List.length_append, List.length_singleton] at known
    exact ⟨by omega, by simp⟩
  | take k =>
    rw [List.length_set] at known
    refine ⟨known, fun same => other (.inr ⟨same.symm, known⟩)⟩

/-- Every subscriber has looked, at the latest when it joined. By induction on the end of the
history. -/
theorem exists_look (none_yet : t.seen = []) (history : List Operation)
    (known : subscriber < (t.after history).seen.length) :
    ∃ earlier look later, history = earlier ++ look :: later ∧
      (t.after earlier).Looks subscriber look ∧ .take subscriber ∉ later := by
  induction history using List.reverseRecOn with
  | nil => simp [none_yet] at known
  | append_singleton history op ih =>
    by_cases looks : (t.after history).Looks subscriber op
    · exact ⟨history, op, [], rfl, looks, List.not_mem_nil⟩
    · rw [after_append] at known
      obtain ⟨before, other⟩ := known_of_not_looks known looks
      obtain ⟨earlier, look, later, rfl, looked, unread⟩ := ih before
      refine ⟨earlier, look, later ++ [op], by simp, looked, ?_⟩
      simp [unread, other]

end Histories

/-- After any history of a tracker, whatever the run and its subscribers did: of every subscriber there is
a last time that it looked, when it joined or later; it has news exactly if there was a change since, and
what it saw then is current if it has none. What is accepted makes the aggregate that of the call, a reset
makes it a new one, and either is published once. What is refused leaves all as it is, and the log has one
line for every outcome that is accepted and for every word on progress that is not. -/
theorem publishes_changes_only (order : List ProbeId) (history : List Operation) :
    let start := withOrder order
    let now := start.after history
    let changed (a : Aggregate) : Tracker := ⟨order, a, now.published + 1, now.seen⟩
    (∀ subscriber < now.seen.length, ∃ earlier look later, history = earlier ++ look :: later ∧
      (start.after earlier).Looks subscriber look ∧ .take subscriber ∉ later) ∧
    (∀ subscriber earlier look later, history = earlier ++ look :: later →
      (start.after earlier).Looks subscriber look → .take subscriber ∉ later →
      (now.hasChanged subscriber = true ↔ ∃ before op behind, later = before ++ op :: behind ∧
        (start.after (earlier ++ look :: before)).Changes op) ∧
      (now.hasChanged subscriber = false →
        now.aggregate = ((start.after earlier).take subscriber).2)) ∧
    (∀ id comment, now.Accepts id → ∃ a, now.aggregate.setProgress id comment = .ok a ∧
      a.outcome? id = some (.pending (some comment)) ∧ now.progress id comment = (changed a, [])) ∧
    (∀ id comment, ¬ now.Accepts id →
      ∃ message, now.progress id comment = (now, [⟨.warn, [], message⟩])) ∧
    (∀ id outcome, ¬ now.Accepts id →
      (∃ e, now.resolve id outcome = .error e) ∧ now.perform (.resolve id outcome) = (now, [])) ∧
    (∀ id outcome, now.Accepts id → ∃ a event, now.aggregate.resolve id outcome = .ok a ∧
      a.outcome? id = some outcome ∧ now.resolve id outcome = .ok (changed a, [event]) ∧
      (event.level = .warn ↔ outcome.isFail = true)) ∧
    now.reset = changed (.new order) := by
  intro start now changed
  have ordered : now.order = order := order_after start history
  have published (a : Aggregate) : now.publish a = changed a := by
    rw [publish, ordered]
  refine ⟨fun subscriber => exists_look rfl history, ?_, fun id comment accepts => ?_,
    fun id comment refuses => progress_of_not_accepts refuses comment, fun id o refuses => ?_,
    fun id o accepts => ?_, by rw [reset, published, ordered]⟩
  · rintro subscriber earlier look later split looks unread
    have at_look : now = ((start.after earlier).perform look).1.after later := by
      rw [← after_cons, ← after_append, ← split]
    have since := hasChanged_after looks unread
    rw [← at_look] at since
    refine ⟨since.1.trans ?_, since.2⟩
    simp only [ChangesDuring, after_append, after_cons]
  · obtain ⟨a, accepted, shown, done⟩ := progress_of_accepts accepts comment
    exact ⟨a, accepted, shown, published a ▸ done⟩
  · obtain ⟨e, refused⟩ := resolve_of_not_accepts refuses o
    exact ⟨⟨e, refused⟩, by simp [perform, refused]⟩
  · obtain ⟨a, accepted, shown, done⟩ := resolve_of_accepts accepts o
    exact ⟨a, _, accepted, shown, published a ▸ done, level_outcomeEvent id o⟩

end ModulatorHealth.Tracker
