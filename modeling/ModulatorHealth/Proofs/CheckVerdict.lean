import ModulatorHealth.Command
import ModulatorHealth.Proofs.JsonText
import ModulatorHealth.Proofs.ReportText
import ModulatorHealth.Proofs.RunCompletion
import ModulatorHealth.Proofs.TerminalRows

/-! The exit status, the table and the JSON text of a health check agree: all three give the outcomes
that the run recorded, whatever the device answered. -/
namespace ModulatorHealth

namespace Terminal

def hasLabel (o : Outcome) (line : String) : Bool :=
  (outcomeLabel o).toList.isPrefixOf line.toList

theorem hasLabel_outcomeLine {o o' : Outcome} (terminal : o.isTerminal = true)
    (terminal' : o'.isTerminal = true) (id : ProbeId) :
    hasLabel o (outcomeLine id o') = (o.isOk == o'.isOk) := by
  obtain ⟨rest, line⟩ := outcomeLine_toList id o'
  have lengths := (length_outcomeLabel terminal').trans (length_outcomeLabel terminal).symm
  have labels : ∀ ok ok' : Bool,
      ((outcomeLabel (if ok then .ok none else .fail "")).toList =
        (outcomeLabel (if ok' then .ok none else .fail "")).toList) ↔ ok = ok' := by decide
  rw [Bool.eq_iff_iff, hasLabel, List.isPrefixOf_iff_prefix, line, List.prefix_iff_eq_take,
    List.take_left' lengths, outcomeLabel_of_isTerminal terminal,
    outcomeLabel_of_isTerminal terminal', labels]
  simp

theorem countP_hasLabel {entries : List Aggregate.Entry}
    (complete : ∀ entry ∈ entries, entry.outcome.isTerminal = true) :
    let rows := entries.map fun entry => outcomeLine entry.id entry.outcome
    rows.countP (hasLabel (.ok none)) = entries.countP (·.outcome.isOk) ∧
      rows.countP (hasLabel (.fail "")) = entries.countP (·.outcome.isFail) := by
  intro rows
  have okRow {o : Outcome} (id : ProbeId) (terminal : o.isTerminal = true) :
      hasLabel (.ok none) (outcomeLine id o) = o.isOk :=
    (hasLabel_outcomeLine (by decide) terminal id).trans (Bool.true_beq _)
  have failRow {o : Outcome} (id : ProbeId) (terminal : o.isTerminal = true) :
      hasLabel (.fail "") (outcomeLine id o) = o.isFail := by
    rw [hasLabel_outcomeLine (by decide) terminal]
    cases o with
    | pending => cases terminal
    | ok | fail => rfl
  simp only [rows, List.countP_map]
  exact ⟨List.countP_congr fun entry member => by simp [okRow entry.id (complete entry member)],
    List.countP_congr fun entry member => by simp [failRow entry.id (complete entry member)]⟩

theorem summaryLine_of_isComplete {r : Report} (complete : r.aggregate.isComplete = true) :
    summaryLine r = "Overall: " ++ overallLabel r.overall ++ "  (" ++
      toString r.aggregate.counts.ok ++ " ok, " ++ toString r.aggregate.counts.failed ++
      " failed) in " ++ seconds r.durationMs ++ "s" := by
  have none_pending := (Aggregate.isComplete_iff_pending _).mp complete
  have joined : " failed" ++ ") in " = " failed) in " := by simp
  unfold summaryLine
  dsimp only
  rw [none_pending, if_neg (Nat.lt_irrefl 0), String.append_empty, ← joined]
  simp only [String.append_assoc]

end Terminal

theorem Aggregate.Sound.exists_table {a : Aggregate} (sound : a.Sound) {order : List ProbeId}
    (ids : a.ids = order) :
    ∃ outcomes : ProbeId → Outcome, a.entries = order.map fun id => ⟨id, outcomes id⟩ := by
  refine ⟨fun id => (a.outcome? id).getD (.pending none), ?_⟩
  rw [← ids, Aggregate.ids, List.map_map]
  refine (List.map_id _).symm.trans (List.map_congr_left fun entry member => ?_)
  have found := (outcome?_eq_some_iff sound.nodup entry.id entry.outcome).mpr member
  simp [found]

namespace Command

open Check

theorem code_checkStatus {a : Aggregate} (sound : a.Sound) (complete : a.isComplete = true)
    (name : String) (occasion : Occasion) :
    (checkStatus (reportOf name occasion a)).code =
      if ∀ entry ∈ a.entries, entry.outcome.isOk = true then 0 else 2 := by
  have overall : (reportOf name occasion a).overall = _ := sound.overall_of_isComplete complete
  unfold checkStatus Report.isOk
  rw [overall]
  split <;> rfl

theorem read_printed_pretty {r : Report} (started : r.startedAt.IsClockTime)
    (ended : r.finishedAt.IsClockTime) :
    (Json.Tree.parse? (Terminal.printed [r.toJson.pretty])).bind Report.read? = some r := by
  have printed : Terminal.printed [r.toJson.pretty] = r.toJson.pretty ++ "\n" := by
    simp [Terminal.printed]
  have blank : Json.Parser.Blanks "\n".toList := by
    simp [Json.Parser.Blanks, Json.Parser.isBlank]
  rw [printed, Json.Tree.parse?_pretty r.hasNoDouble blank, Option.bind_some,
    Report.read?_toJson started ended]

/-- A health check of a device that answers every call comes to its end under every fair schedule,
and never with an error. Its status, the table and the text in JSON tell the same outcomes, also of a
run that was watched; the rows of the table are those that its summary counts. -/
theorem check_tells_outcomes {σ : Type} (client : Client σ) (device : σ) (name : String)
    (config : CheckConfig) {occasion : Occasion} (started : occasion.startedAt.IsClockTime)
    (ended : occasion.finishedAt.IsClockTime) :
    let start := Run.start config (World.start device .new)
    let after (schedule : List Branch) := start.follow (answering client) schedule
    (∀ turns, Fair turns →
        ∃ n, ∀ m, n ≤ m → (start.stage (answering client) turns m).isFinished = true) ∧
      (∃ schedule, (after schedule).isFinished = true ∧ ∀ json,
        runCheck json name config occasion client device =
          (concludeCheck json name occasion [] (after schedule).aggregate,
            (after schedule).world.device)) ∧
      ∀ schedule, (after schedule).isFinished = true → ∃ outcomes : ProbeId → Outcome,
        let result := (after schedule).aggregate
        let report := reportOf name occasion result
        result.entries = ProbeId.order.map (fun id => ⟨id, outcomes id⟩) ∧
          report.aggregate = result ∧ report.overall = result.overall ∧
          ∀ json seen,
            let checked := concludeCheck json name occasion seen result
            checked.failure = none ∧
              checked.status.code =
                (if ∀ id ∈ ProbeId.order, (outcomes id).isOk = true then 0 else 2) ∧
              (json = false →
                let rows := ProbeId.order.map fun id => Terminal.outcomeLine id (outcomes id)
                let count (o : Outcome) := toString (rows.countP (Terminal.hasLabel o))
                checked.lines = ["Checking " ++ name] ++ liveLines .standard (seen ++ [result])
                  ++ [""] ++ Terminal.reportLines report ∧
                Terminal.reportLines report =
                  ["ODR health check  " ++ Terminal.Style.dimmed.paint name, Terminal.separator]
                    ++ rows ++ [Terminal.separator,
                      "Overall: " ++ Terminal.overallLabel report.overall ++ "  (" ++
                        count (.ok none) ++ " ok, " ++ count (.fail "") ++ " failed) in " ++
                        Terminal.seconds report.durationMs ++ "s"]) ∧
              (json = true →
                (Json.Tree.parse? (Terminal.printed checked.lines)).bind Report.read? =
                  some report) := by
  intro start after
  have sound : start.Sound ProbeId.order := Run.sound_start config (World.start device .new)
  refine ⟨fun turns => (Run.orderly_start config _).finishes (answers_answering client), ?_, ?_⟩
  · obtain ⟨schedule, same, finished⟩ :=
      exists_schedule_of_run (answers_answering client) config (World.start device .new)
    refine ⟨schedule, finished, fun json => ?_⟩
    rw [runCheck, same]
  · intro schedule finished
    have last : (after schedule).Sound ProbeId.order := sound.follow _ schedule
    have complete := last.isComplete_of_isFinished finished
    have terminal := (Aggregate.isComplete_iff _).mp complete
    have ids : (after schedule).aggregate.ids = ProbeId.order := last.ids
    obtain ⟨outcomes, table⟩ := last.aggregate.exists_table ids
    refine ⟨outcomes, table, rfl, rfl, fun json seen => ⟨rfl, ?_, ?_, ?_⟩⟩
    · have code := code_checkStatus last.aggregate complete name occasion
      simp only [table, List.forall_mem_map] at code
      exact code
    · rintro rfl rows count
      have counted := Terminal.countP_hasLabel terminal
      have shown : (after schedule).aggregate.entries.map
          (fun entry => Terminal.outcomeLine entry.id entry.outcome) = rows := by
        rw [table, List.map_map]
        rfl
      have summary := Terminal.summaryLine_of_isComplete
        (show (reportOf name occasion (after schedule).aggregate).aggregate.isComplete = true
          from complete)
      refine ⟨rfl, ?_⟩
      rw [Terminal.reportLines, summary]
      simp only [count, ← shown, counted.1, counted.2]
      rfl
    · rintro rfl
      exact read_printed_pretty started ended

/-- Refuses every call, for a reason with a quote, a line break and an accent in it. -/
def refusing : Client Unit := fun _ device =>
  (.error (.device "not \"d\u00e9marr\u00e9\"\n"), device)

def leapDay : Occasion := ⟨0, ⟨951825599, 500000000⟩, ⟨951825600, 0⟩⟩

theorem check_tells_refusals :
    let run := (Run.start .standard (World.start () .new)).follow (answering refusing)
      (List.replicate 12 .main ++ List.replicate 3 .late)
    let checked := concludeCheck true "http://10.0.0.1" leapDay [.standard] run.aggregate
    leapDay.startedAt.IsClockTime ∧ leapDay.finishedAt.IsClockTime ∧ run.isFinished = true ∧
      checked.failure = none ∧ checked.status.code = 2 ∧
      (Json.Tree.parse? (Terminal.printed checked.lines)).bind Report.read? =
        some (reportOf "http://10.0.0.1" leapDay run.aggregate) := by
  intro run checked
  have started : leapDay.startedAt.IsClockTime := ⟨by decide, by decide⟩
  have ended : leapDay.finishedAt.IsClockTime := ⟨by decide, by decide⟩
  have finished : run.isFinished = true := by decide
  obtain ⟨-, -, told⟩ :=
    check_tells_outcomes refusing () "http://10.0.0.1" .standard started ended
  obtain ⟨outcomes, -, -, -, told⟩ := told _ finished
  obtain ⟨returned, -, -, read⟩ := told true [.standard]
  exact ⟨started, ended, finished, returned, by decide, read rfl⟩

end Command

end ModulatorHealth
