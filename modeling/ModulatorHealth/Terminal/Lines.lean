import ModulatorHealth.Report
import ModulatorHealth.Param
import ModulatorHealth.Predistortion
import ModulatorHealth.Terminal.Style

/-! What the terminal shows, line by line. -/
namespace ModulatorHealth.Terminal

def outcomeStyle : Outcome → Style
  | .ok _ => .green
  | .fail _ => .brightRed
  | .pending _ => .yellow

def labelWidth : Nat := 9

def descriptionWidth : Nat := 30

def outcomeLabel (o : Outcome) : String :=
  (outcomeStyle o).paint (padRight labelWidth ("[" ++ o.label ++ "]"))

def overallStyle : Overall → Style
  | .ok => .brightGreen
  | .degraded => .brightRed
  | .running => .yellow

def overallLabel (status : Overall) : String := (overallStyle status).paint status.label

def outcomeLine (id : ProbeId) (o : Outcome) : String :=
  Text.trimmedEnd <|
    outcomeLabel o ++ " " ++ padRight descriptionWidth id.description ++ " " ++ o.comment.getD ""

def progressLine (id : ProbeId) (progress : String) : String :=
  padRight labelWidth "" ++ " " ++ Style.dimmed.paint (id.description ++ ": " ++ progress)

def transitionLine? (entry : Aggregate.Entry) : Option String :=
  match entry.outcome with
  | .pending progress => progress.map (progressLine entry.id)
  | terminal => some (outcomeLine entry.id terminal)

def transitions (previous current : Aggregate) : List String :=
  (current.entries.filter fun entry => previous.outcome? entry.id ≠ some entry.outcome).filterMap
    transitionLine?

def separator : String := Style.dimmed.paint (String.ofList (List.replicate 60 '-'))

def seconds (milliseconds : UInt64) : String :=
  let value := do
    let ms ← Finite64.ofInt? milliseconds.toNat
    ms.div? (← Finite64.ofInt? 1000)
  String.ofList ((value.map (Finite64.toFixed 1)).getD [])

def summaryLine (r : Report) : String :=
  let counts := r.aggregate.counts
  let pending := if 0 < counts.pending then ", " ++ toString counts.pending ++ " pending" else ""
  "Overall: " ++ overallLabel r.overall ++ "  (" ++ toString counts.ok ++ " ok, "
    ++ toString counts.failed ++ " failed" ++ pending ++ ") in " ++ seconds r.durationMs ++ "s"

def reportLines (r : Report) : List String :=
  ["ODR health check  " ++ Style.dimmed.paint r.device, separator]
    ++ (r.aggregate.entries.map fun entry => outcomeLine entry.id entry.outcome)
    ++ [separator, summaryLine r]

def valueText : Json → String
  | .string text => text
  | other => other.render

def rowLine (name : String) (row : ParamTable.Row) : String :=
  let start := "  " ++ padRight 24 name ++ " "
  match row.help with
  | some help => start ++ padRight 16 (valueText row.value) ++ " " ++ Style.dimmed.paint help
  | none => start ++ valueText row.value

def paramTableLines (table : ParamTable) : List String :=
  table.flatMap fun (controllable, rows) =>
    Style.cyan.paint controllable :: rows.map fun (name, row) => rowLine name row

def dpdLines (r : Predistortion.Results) : List String :=
  ["State:    " ++ r.state.getD "unknown"]
    ++ (r.progress.map fun x => "Progress: " ++ String.ofList (x.toFixed 0) ++ "%").toList
    ++ r.summary.map ("  " ++ ·)
    ++ (if r.adaptDumps.isEmpty then []
        else "Adapt dumps:" :: r.adaptDumps.map fun dump => "  " ++ valueText dump)

def errorLine (message : String) : String := "[ERROR] " ++ Style.red.paint message

def printed (lines : List String) : String := String.join (lines.map (· ++ "\n"))

end ModulatorHealth.Terminal
