import ModulatorHealth.Terminal.Lines
import ModulatorHealth.Proofs.AggregateHistory
import ModulatorHealth.Proofs.Trimming
import Mathlib.Data.List.Nodup

/-! Rows of the terminal tell which probe they are about and whether it has come to its end, whatever
the comment in them is. -/
namespace ModulatorHealth

namespace ProbeId

theorem description_solid (id : ProbeId) :
    ∀ c ∈ id.description.toList.getLast?, Text.isBlank c = false := by
  have solid : (id.description.toList.getLast?.all fun c => !Text.isBlank c) = true := by
    cases id <;> decide
  intro c last
  rw [Option.mem_def.mp last] at solid
  simpa using solid

theorem eq_of_description {x y : ProbeId} {s t : List Char}
    (same : x.description.toList ++ s = y.description.toList ++ t) : x = y := by
  have long (id : ProbeId) : 4 ≤ id.description.toList.length := by
    cases id <;> decide
  have apart : (order.map fun id => id.description.toList.take 4).Nodup := by decide
  have front := congrArg (List.take 4) same
  rw [List.take_append_of_le_length (long x), List.take_append_of_le_length (long y)] at front
  exact List.inj_on_of_nodup_map apart (mem_order x) (mem_order y) front

end ProbeId

namespace Terminal

/-- A row begins with its label and its description; trimming takes nothing away from these. -/
theorem outcomeLine_toList (id : ProbeId) (o : Outcome) :
    ∃ rest, (outcomeLine id o).toList =
      (outcomeLabel o).toList ++ ' ' :: (id.description.toList ++ rest) := by
  let solid := (outcomeLabel o).toList ++ ' ' :: id.description.toList
  have ends : ∀ c ∈ solid.getLast?, Text.isBlank c = false := by
    have last : solid.getLast? = id.description.toList.getLast? := by
      cases id <;> simp [solid, ProbeId.description]
    rw [last]
    exact id.description_solid
  let blanks := List.replicate (descriptionWidth - id.description.length) ' '
  refine ⟨Text.trimEnd (blanks ++ ' ' :: (o.comment.getD "").toList), ?_⟩
  have trimmed := Text.trimEnd_append (blanks ++ ' ' :: (o.comment.getD "").toList) ends
  simpa [outcomeLine, Text.trimmedEnd, padRight, solid, blanks] using trimmed

theorem progressLine_toList (id : ProbeId) (progress : String) :
    ∃ rest, (progressLine id progress).toList =
      (padRight labelWidth "" ++ " " ++ escape "2").toList ++ (id.description.toList ++ rest) := by
  refine ⟨(": " ++ progress ++ escape "0").toList, ?_⟩
  simp [progressLine, Style.paint, Style.codes]

theorem outcomeLabel_of_isTerminal {o : Outcome} (terminal : o.isTerminal = true) :
    outcomeLabel o = outcomeLabel (if o.isOk then .ok none else .fail "") := by
  cases o with
  | pending => cases terminal
  | ok | fail => rfl

theorem length_outcomeLabel {o : Outcome} (terminal : o.isTerminal = true) :
    (outcomeLabel o).toList.length = 19 := by
  rw [outcomeLabel_of_isTerminal terminal]
  cases o.isOk <;> decide

/-- A row under a label: the description in a column of its own, then the words, and no blanks at the
end. -/
def IsRow (label : String) (id : ProbeId) (words line : String) : Prop :=
  Text.IsFront line.toList (label.toList ++ ' ' :: id.description.toList ++
    List.replicate (30 - id.description.length) ' ' ++ ' ' :: words.toList)

/-- The row of a probe that came to its end: green, with its comment if there is one, or red, with the
reason of its failure. -/
inductive TellsEnd (id : ProbeId) (line : String) : Outcome → Prop where
  | ok (comment : Option String) :
      IsRow "\x1b[32m[OK]     \x1b[39m" id (comment.getD "") line → TellsEnd id line (.ok comment)
  | fail (reason : String) :
      IsRow "\x1b[91m[FAIL]   \x1b[39m" id reason line → TellsEnd id line (.fail reason)

theorem isRow_outcomeLine (id : ProbeId) (o : Outcome) :
    IsRow (outcomeLabel o) id (o.comment.getD "") (outcomeLine id o) := by
  have whole := Text.isFront_trimEnd (outcomeLabel o ++ " " ++
    padRight descriptionWidth id.description ++ " " ++ o.comment.getD "").toList
  simpa [IsRow, outcomeLine, Text.trimmedEnd, padRight, descriptionWidth] using whole

theorem tellsEnd_outcomeLine {o : Outcome} (terminal : o.isTerminal = true) (id : ProbeId) :
    TellsEnd id (outcomeLine id o) o := by
  have row := isRow_outcomeLine id o
  cases o with
  | pending => cases terminal
  | ok comment =>
    have green : outcomeLabel (.ok none) = "\x1b[32m[OK]     \x1b[39m" := by decide
    have label := (outcomeLabel_of_isTerminal terminal).trans green
    exact .ok comment (label ▸ row)
  | fail reason =>
    have red : outcomeLabel (.fail "") = "\x1b[91m[FAIL]   \x1b[39m" := by decide
    have label := (outcomeLabel_of_isTerminal terminal).trans red
    exact .fail reason (label ▸ row)

def IsVerdictLine (id : ProbeId) (line : String) : Prop :=
  ∃ o : Outcome, o.isTerminal = true ∧ line = outcomeLine id o

def IsProgressLine (id : ProbeId) (line : String) : Prop := ∃ progress, line = progressLine id progress

theorem eq_of_outcomeLine {x y : ProbeId} {o o' : Outcome} (terminal : o.isTerminal = true)
    (terminal' : o'.isTerminal = true) (same : outcomeLine x o = outcomeLine y o') : x = y := by
  obtain ⟨rest, line⟩ := outcomeLine_toList x o
  obtain ⟨rest', line'⟩ := outcomeLine_toList y o'
  rw [← same, line] at line'
  have lengths := (length_outcomeLabel terminal).trans (length_outcomeLabel terminal').symm
  have texts := (List.append_inj line' lengths).2
  exact ProbeId.eq_of_description (List.cons.inj texts).2

theorem eq_of_progressLine {x y : ProbeId} {p q : String}
    (same : progressLine x p = progressLine y q) : x = y := by
  obtain ⟨rest, line⟩ := progressLine_toList x p
  obtain ⟨rest', line'⟩ := progressLine_toList y q
  rw [← same, line] at line'
  exact ProbeId.eq_of_description (List.append_cancel_left line')

/-- A row begins with a colour, a word on progress with a blank. -/
theorem outcomeLine_ne_progressLine {x y : ProbeId} {o : Outcome} {p : String}
    (terminal : o.isTerminal = true) : outcomeLine x o ≠ progressLine y p := by
  intro same
  obtain ⟨rest, line⟩ := outcomeLine_toList x o
  obtain ⟨rest', line'⟩ := progressLine_toList y p
  rw [← same, line, outcomeLabel_of_isTerminal terminal] at line'
  have first := congrArg List.head? line'
  have label : ∀ ok : Bool,
      (outcomeLabel (if ok then .ok none else .fail "")).toList.head? = some '\x1b' := by decide
  have blank : (padRight labelWidth "" ++ " " ++ escape "2").toList.head? = some ' ' := by decide
  rw [List.head?_append, List.head?_append, label, blank, Option.some_or, Option.some_or,
    Option.some.injEq] at first
  exact absurd first (by decide)

section Transition

variable {entry : Aggregate.Entry} {id : ProbeId} {line : String}

theorem transitionLine?_of_isTerminal (terminal : entry.outcome.isTerminal = true) :
    transitionLine? entry = some (outcomeLine entry.id entry.outcome) := by
  unfold transitionLine?
  split
  · rename_i pending
    rw [pending] at terminal
    cases terminal
  · rfl

theorem transitionLine?_of_pending (pending : entry.outcome.isTerminal = false)
    (said : transitionLine? entry = some line) : IsProgressLine entry.id line := by
  unfold transitionLine? at said
  split at said
  · obtain ⟨progress, -, rfl⟩ := Option.map_eq_some_iff.mp said
    exact ⟨progress, rfl⟩
  · rename_i other
    cases outcome : entry.outcome with
    | pending progress => exact absurd outcome (other progress)
    | ok | fail => simp [outcome, Outcome.isTerminal] at pending

theorem entry_of_isVerdictLine (said : transitionLine? entry = some line)
    (verdict : IsVerdictLine id line) : entry.id = id ∧ entry.outcome.isTerminal = true := by
  obtain ⟨o, ends, rfl⟩ := verdict
  cases terminal : entry.outcome.isTerminal with
  | true =>
    rw [transitionLine?_of_isTerminal terminal, Option.some.injEq] at said
    exact ⟨eq_of_outcomeLine terminal ends said, rfl⟩
  | false =>
    obtain ⟨progress, same⟩ := transitionLine?_of_pending terminal said
    exact absurd same (outcomeLine_ne_progressLine ends)

theorem entry_of_isProgressLine (said : transitionLine? entry = some line)
    (word : IsProgressLine id line) : entry.id = id := by
  obtain ⟨progress, rfl⟩ := word
  cases terminal : entry.outcome.isTerminal with
  | true =>
    rw [transitionLine?_of_isTerminal terminal, Option.some.injEq] at said
    exact absurd said (outcomeLine_ne_progressLine terminal)
  | false =>
    obtain ⟨progress', same⟩ := transitionLine?_of_pending terminal said
    exact eq_of_progressLine same.symm

end Transition

end Terminal
end ModulatorHealth
