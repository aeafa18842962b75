import ModulatorHealth.Command
import ModulatorHealth.Device.Scripted
import ModulatorHealth.Proofs.RunCompletion
import ModulatorHealth.Proofs.TerminalRows
import ModulatorHealth.Proofs.TrackerPublication

/-! What is shown of a run while it goes on. A viewer may miss any of the published states, but what
it is shown of a probe in the end is its outcome, once, and nothing comes after that. -/
namespace ModulatorHealth

namespace Aggregate

/-- A history of calls leads from one to the other. -/
def Leads (a b : Aggregate) : Prop := ∃ changes, b = a.after changes

theorem Leads.refl (a : Aggregate) : a.Leads a := ⟨[], rfl⟩

theorem Leads.trans {a b c : Aggregate} (first : a.Leads b) (second : b.Leads c) : a.Leads c := by
  obtain ⟨earlier, rfl⟩ := first
  obtain ⟨later, rfl⟩ := second
  exact ⟨earlier ++ later, (a.after_append earlier later).symm⟩

theorem Leads.sound {a b : Aggregate} (leads : a.Leads b) (sound : a.Sound) : b.Sound := by
  obtain ⟨changes, rfl⟩ := leads
  exact sound.after changes

theorem Leads.outcome?_of_terminal {a b : Aggregate} (leads : a.Leads b) {id : ProbeId} {o : Outcome}
    (found : a.outcome? id = some o) (terminal : o.isTerminal = true) : b.outcome? id = some o := by
  obtain ⟨changes, rfl⟩ := leads
  exact outcome?_after_of_terminal a changes found terminal

end Aggregate

namespace Terminal

def Mentions (id : ProbeId) (line : String) : Prop := IsVerdictLine id line ∨ IsProgressLine id line

variable {previous current : Aggregate} {id : ProbeId} {line : String}

theorem mem_transitions :
    line ∈ transitions previous current ↔ ∃ entry ∈ current.entries,
      previous.outcome? entry.id ≠ some entry.outcome ∧ transitionLine? entry = some line := by
  simp [transitions, and_assoc]

theorem not_mentions_of_ne {entry : Aggregate.Entry} (said : transitionLine? entry = some line)
    (other : entry.id ≠ id) : ¬ Mentions id line := by
  rintro (verdict | word)
  · exact other (entry_of_isVerdictLine said verdict).1
  · exact other (entry_of_isProgressLine said word)

theorem transitions_silent (sound : current.Sound)
    (same : previous.outcome? id = current.outcome? id) :
    ∀ line ∈ transitions previous current, ¬ Mentions id line := by
  intro line member
  obtain ⟨entry, listed, changed, said⟩ := mem_transitions.mp member
  refine not_mentions_of_ne said fun here => changed ?_
  rw [here, same]
  exact here ▸ (Aggregate.outcome?_eq_some_iff sound.nodup _ _).mpr listed

theorem transitions_self (sound : current.Sound) : transitions current current = [] := by
  rw [List.eq_nil_iff_forall_not_mem]
  intro line member
  obtain ⟨entry, listed, changed, -⟩ := mem_transitions.mp member
  exact changed ((Aggregate.outcome?_eq_some_iff sound.nodup _ _).mpr listed)

theorem transitions_of_pending (sound : current.Sound)
    (pending : ∀ o, current.outcome? id = some o → o.isTerminal = false) :
    ∀ line ∈ transitions previous current, ¬ IsVerdictLine id line := by
  intro line member verdict
  obtain ⟨entry, listed, -, said⟩ := mem_transitions.mp member
  obtain ⟨rfl, terminal⟩ := entry_of_isVerdictLine said verdict
  have unended := pending _ ((Aggregate.outcome?_eq_some_iff sound.nodup _ _).mpr listed)
  rw [terminal] at unended
  cases unended

theorem transitions_of_terminal (sound : current.Sound) {o : Outcome}
    (found : current.outcome? id = some o) (terminal : o.isTerminal = true)
    (news : previous.outcome? id ≠ some o) :
    ∃ before after, transitions previous current = before ++ outcomeLine id o :: after ∧
      ∀ line ∈ before ++ after, ¬ Mentions id line := by
  obtain ⟨front, back, split⟩ := List.append_of_mem
    ((Aggregate.outcome?_eq_some_iff sound.nodup id o).mp found)
  let told (entries : List Aggregate.Entry) : List String :=
    (entries.filter fun entry => previous.outcome? entry.id ≠ some entry.outcome).filterMap
      transitionLine?
  have others : ∀ entry ∈ front ++ back, entry.id ≠ id := by
    have nodup := sound.nodup
    rw [Aggregate.ids, split, List.map_append, List.map_cons, List.nodup_middle] at nodup
    intro entry member same
    have listed : entry.id ∈ (front ++ back).map Aggregate.Entry.id := List.mem_map_of_mem member
    rw [List.map_append] at listed
    exact (List.nodup_cons.mp nodup).1 (same ▸ listed)
  refine ⟨told front, told back, ?_, fun line member => ?_⟩
  · have row : transitionLine? ⟨id, o⟩ = some (outcomeLine id o) := transitionLine?_of_isTerminal terminal
    simp [transitions, told, split, news, row]
  · obtain ⟨entry, listed, said⟩ : ∃ entry ∈ front ++ back, transitionLine? entry = some line := by
      simp only [told, List.mem_append, List.mem_filterMap, List.mem_filter] at member ⊢
      grind
    exact not_mentions_of_ne said (others entry listed)

end Terminal

namespace Command

open Aggregate Terminal

variable {shown : Aggregate} {seen : List Aggregate} {id : ProbeId} {o : Outcome}

theorem liveLines_cons (shown current : Aggregate) (rest : List Aggregate) :
    liveLines shown (current :: rest) = transitions shown current ++ liveLines current rest := rfl

theorem liveLines_concat (shown current : Aggregate) (seen : List Aggregate) :
    liveLines shown (seen ++ [current]) =
      liveLines shown seen ++ transitions (seen.getLastD shown) current := by
  induction seen generalizing shown with
  | nil => simp [liveLines]
  | cons first rest ih =>
    rw [List.cons_append, liveLines_cons, liveLines_cons, ih, List.append_assoc, List.getLastD_cons]

/-- A state that is seen adds to what is shown what differs from the one before. -/
theorem shownLines_concat (device : String) (seen : List Aggregate) (current : Aggregate) :
    shownLines false device (seen ++ [current]) =
      shownLines false device seen ++ transitions (seen.getLastD .standard) current := by
  simp only [shownLines, Bool.false_eq_true, if_false, liveLines_concat, List.append_assoc]

/-- What is shown while the run goes on is how the whole output begins. -/
theorem shownLines_prefix (json : Bool) (device : String) (seen : List Aggregate) (r : Report) :
    shownLines json device seen <+: checkLines json device seen r := by
  cases json with
  | true => exact List.nil_prefix
  | false =>
    simp only [shownLines, checkLines, Bool.false_eq_true, if_false, liveLines_concat,
      List.append_assoc]
    exact List.prefix_append_right_inj _ |>.mpr (List.prefix_append _ _)

theorem liveLines_silent (sound : shown.Sound) (ordered : (shown :: seen).Pairwise Leads)
    (found : shown.outcome? id = some o) (terminal : o.isTerminal = true) :
    ∀ line ∈ liveLines shown seen, ¬ Mentions id line := by
  induction seen generalizing shown with
  | nil => simp [liveLines]
  | cons current rest ih =>
    obtain ⟨leads, later⟩ := List.pairwise_cons.mp ordered
    have next := leads current List.mem_cons_self
    have kept := next.outcome?_of_terminal found terminal
    intro line member
    rw [liveLines_cons, List.mem_append] at member
    rcases member with now | after
    · exact transitions_silent (next.sound sound) (found.trans kept.symm) line now
    · exact ih (next.sound sound) later kept line after

/-- A probe that ends is shown to end once, and after that nothing is said of it. By induction on the
states seen: the first of them in which the probe has ended gives the row. -/
theorem liveLines_once (sound : shown.Sound) (ordered : (shown :: seen).Pairwise Leads)
    (pending : ∀ o, shown.outcome? id = some o → o.isTerminal = false)
    (terminal : o.isTerminal = true) (ends : ∃ state ∈ seen, state.outcome? id = some o) :
    ∃ before after, liveLines shown seen = before ++ outcomeLine id o :: after ∧
      (∀ line ∈ before, ¬ IsVerdictLine id line) ∧ ∀ line ∈ after, ¬ Mentions id line := by
  induction seen generalizing shown with
  | nil =>
    obtain ⟨_, member, -⟩ := ends
    cases member
  | cons current rest ih =>
    obtain ⟨leads, later⟩ := List.pairwise_cons.mp ordered
    have now := (leads current List.mem_cons_self).sound sound
    rw [liveLines_cons]
    by_cases here : current.outcome? id = some o
    · have news : shown.outcome? id ≠ some o := by
        intro found
        rw [pending o found] at terminal
        cases terminal
      obtain ⟨before, after, row, quiet⟩ := transitions_of_terminal now here terminal news
      refine ⟨before, after ++ liveLines current rest, by simp [row], ?_, ?_⟩
      · exact fun line member said => quiet line (List.mem_append_left _ member) (.inl said)
      · intro line member
        rcases List.mem_append.mp member with beside | after
        · exact quiet line (List.mem_append_right _ beside)
        · exact liveLines_silent now later here terminal line after
    · obtain ⟨state, member, found⟩ := ends
      have behind : state ∈ rest := by
        rcases List.mem_cons.mp member with rfl | behind
        · exact absurd found here
        · exact behind
      have still : ∀ o', current.outcome? id = some o' → o'.isTerminal = false := by
        intro o' found'
        by_contra ended
        have kept := (List.rel_of_pairwise_cons later behind).outcome?_of_terminal found'
          (by simpa using ended)
        rw [found, Option.some.injEq] at kept
        exact here (kept ▸ found')
      obtain ⟨before, after, row, quiet, silent⟩ := ih now later still ⟨state, behind, found⟩
      refine ⟨transitions shown current ++ before, after, by simp [row], ?_, silent⟩
      intro line member
      rcases List.mem_append.mp member with first | member
      · exact transitions_of_pending now still line first
      · exact quiet line member

end Command

namespace Tracker

variable (t : Tracker) (id : ProbeId)

theorem progress_publishes (comment : String) :
    (t.progress id comment).1 = t ∨ (t.progress id comment).1.published = t.published + 1 := by
  unfold progress
  split
  · exact .inr rfl
  · exact .inl rfl

theorem resolve_publishes {o : Outcome} {t' : Tracker} {events : List Log.Event}
    (accepted : t.resolve id o = .ok (t', events)) : t'.published = t.published + 1 := by
  obtain ⟨a, -, rfl, -⟩ := resolve_eq_ok_iff.mp accepted
  rfl

end Tracker

theorem Check.Chain.Move.publishes {σ : Type} {channel : Channel σ} {chain : Chain} {w : World σ}
    {moved : Chain × World σ} (move : Move channel chain w moved) :
    moved.2.tracker = w.tracker ∨ moved.2.tracker.published = w.tracker.published + 1 := by
  cases move with
  | idle | stalled | answered | unanswered | slept => exact .inl rfl
  | progressed id comment next rest w => exact w.tracker.progress_publishes id comment
  | resolved id verdict rest w =>
    dsimp only
    unfold World.resolve
    split
    · rename_i accepted
      exact .inr (w.tracker.resolve_publishes id accepted)
    · exact .inl rfl

namespace Check.Run

open Aggregate

variable {σ : Type} {channel : Channel σ}

/-- The states that the steps of a schedule publish, in order. -/
def publications (channel : Channel σ) (r : Run σ) : List Branch → List Aggregate
  | [] => []
  | branch :: rest =>
    let next := r.step channel branch
    (if next.world.tracker.published = r.world.tracker.published then [] else [next.aggregate])
      ++ next.publications channel rest

theorem step_leads (channel : Channel σ) (branch : Branch) (r : Run σ) :
    r.aggregate.Leads (r.step channel branch).aggregate := ⟨_, step_aggregate channel branch r⟩

theorem publications_pairwise (schedule : List Branch) (r : Run σ) :
    (r.aggregate :: (r.publications channel schedule ++
      [(r.follow channel schedule).aggregate])).Pairwise Leads := by
  induction schedule generalizing r with
  | nil => simp [publications, Leads.refl]
  | cons branch rest ih =>
    have later := ih (r.step channel branch)
    have step := step_leads channel branch r
    have leads : ∀ state ∈ (r.step channel branch).aggregate ::
        ((r.step channel branch).publications channel rest ++
          [((r.step channel branch).follow channel rest).aggregate]), r.aggregate.Leads state := by
      intro state member
      rcases List.mem_cons.mp member with rfl | member
      · exact step
      · exact step.trans (List.rel_of_pairwise_cons later member)
    rw [follow_cons, publications]
    split
    · exact List.pairwise_cons.mpr
        ⟨fun state member => leads state (List.mem_cons_of_mem _ member), later.of_cons⟩
    · exact List.pairwise_cons.mpr ⟨leads, later⟩

theorem step_publishes (channel : Channel σ) (branch : Branch) (r : Run σ) :
    (r.step channel branch).world.tracker = r.world.tracker ∨
      (r.step channel branch).world.tracker.published = r.world.tracker.published + 1 := by
  rw [step_eq, put_world]
  exact (Chain.step_move channel _ r.world).publishes

theorem published_follow (schedule : List Branch) (r : Run σ) :
    (r.follow channel schedule).world.tracker.published =
      r.world.tracker.published + (r.publications channel schedule).length := by
  induction schedule generalizing r with
  | nil => rfl
  | cons branch rest ih =>
    rw [follow_cons, ih, publications, List.length_append]
    rcases step_publishes channel branch r with same | more
    · simp [same]
    · simp [more, Nat.add_assoc]

theorem getLast?_publications (schedule : List Branch) (r : Run σ) :
    (r.aggregate :: r.publications channel schedule).getLast? =
      some (r.follow channel schedule).aggregate := by
  induction schedule generalizing r with
  | nil => rfl
  | cons branch rest ih =>
    rw [follow_cons, ← ih, publications]
    rcases step_publishes channel branch r with same | more
    · simp [aggregate, same]
    · simp [more]

section Watched

variable {config : CheckConfig} {device : σ} {schedule : List Branch} {seen : List Aggregate}

/-- What a viewer is shown who saw some of the published states and at last the result: for each probe
one row, with its comment or the reason of its failure, after which nothing is said of it. Two equal
states give no lines. -/
theorem shows_each_outcome_once
    (finished : ((start config (World.start device .new)).follow channel schedule).isFinished = true)
    (watched : seen.Sublist ((start config (World.start device .new)).aggregate ::
      (start config (World.start device .new)).publications channel schedule)) :
    let start := start config (World.start device .new)
    let r := start.follow channel schedule
    let published := start.aggregate :: start.publications channel schedule
    (start.aggregate = .standard ∧ published.getLast? = some r.aggregate ∧
        r.world.tracker.published + 1 = start.world.tracker.published + published.length) ∧
      (∀ id, ∃ o before after, r.aggregate.outcome? id = some o ∧ o.isTerminal = true ∧
        Terminal.TellsEnd id (Terminal.outcomeLine id o) o ∧
        Command.liveLines .standard (seen ++ [r.aggregate]) =
          before ++ Terminal.outcomeLine id o :: after ∧
        (∀ line ∈ before, ¬ Terminal.IsVerdictLine id line) ∧
        ∀ line ∈ after, ¬ Terminal.IsVerdictLine id line ∧ ¬ Terminal.IsProgressLine id line) ∧
      ∀ state ∈ published, Terminal.transitions state state = [] := by
  intro start r published
  have sound : start.Sound ProbeId.order := sound_start config (World.start device .new)
  have begun : start.aggregate.Sound := sound.aggregate
  have whole : (published ++ [r.aggregate]).Pairwise Leads := publications_pairwise schedule start
  have leads : ∀ state ∈ published ++ [r.aggregate], start.aggregate.Leads state := by
    intro state member
    rcases List.mem_cons.mp member with rfl | later
    · exact .refl _
    · exact List.rel_of_pairwise_cons whole later
  have ordered : (start.aggregate :: (seen ++ [r.aggregate])).Pairwise Leads :=
    (List.pairwise_cons.mpr ⟨leads, whole⟩).sublist
      ((watched.append (List.Sublist.refl _)).cons_cons _)
  refine ⟨⟨rfl, getLast?_publications schedule start, ?_⟩, fun id => ?_, fun state member => ?_⟩
  · rw [published_follow, List.length_cons, Nat.add_assoc]
  · obtain ⟨o, found⟩ := (sound.follow channel schedule).exists_outcome (ProbeId.mem_order id)
    have terminal : o.isTerminal = true := by
      have passed := not_awaits_of_isFinished finished id
      by_contra pending
      exact passed (((sound.follow channel schedule).pending_iff id o found).mp (by simpa using pending))
    have pending : ∀ o, start.aggregate.outcome? id = some o → o.isTerminal = false :=
      fun o found => (sound.pending_iff id o found).mpr (awaits_start config _ id)
    obtain ⟨before, after, row, quiet, silent⟩ :=
      Command.liveLines_once begun ordered pending terminal ⟨r.aggregate, by simp, found⟩
    exact ⟨o, before, after, found, terminal, Terminal.tellsEnd_outcomeLine terminal id, row, quiet,
      fun line member => not_or.mp (silent line member)⟩
  · exact Terminal.transitions_self ((leads state (List.mem_append_left _ member)).sound begun)

end Watched

/-- Of a device that is not there, a viewer who sees only the states with a failure misses none. -/
theorem shows_each_outcome_of_unreachable :
    let begun := start .standard (World.start (ScriptedDevice.unreachable "down") .new)
    let ended (schedule : List Branch) := begun.follow (answering ScriptedDevice.answer) schedule
    ∃ schedule, let published := begun.aggregate ::
        begun.publications (answering ScriptedDevice.answer) schedule
      let seen := published.filter (·.failureSeen)
      (ended schedule).isFinished = true ∧ seen.Sublist published ∧
        ∀ id, ∃ o, (ended schedule).aggregate.outcome? id = some o ∧ o.isTerminal = true ∧
          Terminal.outcomeLine id o ∈
            Command.liveLines .standard (seen ++ [(ended schedule).aggregate]) := by
  intro begun ended
  obtain ⟨schedule, -, finished⟩ := exists_schedule_of_run
    (answers_answering ScriptedDevice.answer) .standard
    (World.start (ScriptedDevice.unreachable "down") .new)
  let published := begun.aggregate ::
    begun.publications (answering ScriptedDevice.answer) schedule
  have watched : (published.filter (·.failureSeen)).Sublist published := List.filter_sublist
  refine ⟨schedule, finished, watched, fun id => ?_⟩
  obtain ⟨o, before, after, found, terminal, -, row, -⟩ :=
    (shows_each_outcome_once finished watched).2.1 id
  exact ⟨o, found, terminal, row ▸ by simp⟩

end Check.Run
end ModulatorHealth
