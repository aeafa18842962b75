import ModulatorHealth.Json.Printer
import ModulatorHealth.Json.Reader

/-! The digital predistortion engine: its results, any of which may be missing, and the commands it
acknowledges. -/
namespace ModulatorHealth.Predistortion

structure Results where
  state : Option String
  progress : Option Finite64
  summary : List String
  statisticsPlot : Option String
  modelPlot : Option String
  modelData : Option Json
  adaptDumps : List Json

namespace Results

def empty : Results := ⟨none, none, [], none, none, none, []⟩

def plotMember (name : String) (plot : Option String) : List (String × Json) :=
  (plot.map fun file => (name, Json.string file)).toList

/-- Plots that do not exist are left out; the other fields are always written. -/
def toJson (r : Results) : Json :=
  .object <|
    [("state", .ofText? r.state),
      ("stateprogress", (r.progress.map fun x => Json.number (.double x)).getD .null),
      ("summary", .array (r.summary.map .string))]
    ++ plotMember "statplot" r.statisticsPlot ++ plotMember "modelplot" r.modelPlot
    ++ [("modeldata", r.modelData.getD .null), ("adapt_dumps", .array r.adaptDumps)]

def fieldNames : List String :=
  ["state", "stateprogress", "summary", "statplot", "modelplot", "modeldata", "adapt_dumps"]

def read? (tree : Json.Tree) : Option Results := do
  let [state, progress, summary, statisticsPlot, modelPlot, modelData, adaptDumps] ←
    tree.fields? fieldNames | none
  let state ← Field.optional Json.Tree.text? state
  let progress ← Field.optional Json.Tree.double? progress
  let summary ← Field.orElse [] (Json.Tree.list? Json.Tree.text?) summary
  let statisticsPlot ← Field.optional Json.Tree.text? statisticsPlot
  let modelPlot ← Field.optional Json.Tree.text? modelPlot
  let modelData ← Field.optional (Json.Tree.value? 1) modelData
  let adaptDumps ← Field.orElse [] (Json.Tree.list? (Json.Tree.value? 2)) adaptDumps
  some ⟨state, progress, summary, statisticsPlot, modelPlot, modelData, adaptDumps⟩

end Results

inductive Command where
  | calibrate
  | triggerRun
  | adapt
  | reset
  | restoreDump (id : String)
deriving DecidableEq

namespace Command

def path : Command → String
  | .calibrate => "/api/dpd_calibrate"
  | .triggerRun => "/api/dpd_trigger_run"
  | .adapt => "/api/dpd_adapt"
  | .reset => "/api/dpd_reset"
  | .restoreDump _ => "/api/dpd_restore_dump"

def body : Command → Json
  | .restoreDump id => .object [("dump_id", .string id)]
  | .calibrate | .triggerRun | .adapt | .reset => .object []

def display : Command → String
  | .calibrate => "calibrate"
  | .triggerRun => "trigger run"
  | .adapt => "adapt"
  | .reset => "reset"
  | .restoreDump id => "restore dump " ++ id

end Command
end ModulatorHealth.Predistortion
