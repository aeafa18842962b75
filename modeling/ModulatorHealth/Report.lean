import ModulatorHealth.Aggregate
import ModulatorHealth.Timestamp
import ModulatorHealth.Uuid

/-! The record of one finished run. -/
namespace ModulatorHealth

structure Report where
  runId : Uuid
  device : String
  startedAt : Timestamp
  finishedAt : Timestamp
  durationMs : UInt64
  overall : Overall
  aggregate : Aggregate

namespace Report

/-- The report of a run that is over: a clock that went back gives no negative duration, and the
aggregate gives the overall status. -/
def ofRun (random : Nat) (device : String) (startedAt finishedAt : Timestamp)
    (aggregate : Aggregate) : Report where
  runId := .ofRandom random
  device := device
  startedAt := startedAt
  finishedAt := finishedAt
  durationMs := .ofNat (startedAt.millisecondsUntil finishedAt).toNat
  overall := aggregate.overall
  aggregate := aggregate

def isOk (r : Report) : Bool := r.overall = .ok

def toJson (r : Report) : Json :=
  .object [
    ("run_id", .string r.runId.text),
    ("device", .string r.device),
    ("started_at", .string r.startedAt.text),
    ("finished_at", .string r.finishedAt.text),
    ("duration_ms", .number (.ofUInt64 r.durationMs)),
    ("overall", r.overall.toJson),
    ("aggregate", r.aggregate.toJson)]

def fieldNames : List String :=
  ["run_id", "device", "started_at", "finished_at", "duration_ms", "overall", "aggregate"]

def read? (tree : Json.Tree) : Option Report := do
  let [runId, device, startedAt, finishedAt, durationMs, overall, aggregate] ←
    tree.fields? fieldNames | none
  let runId ← (Field.required Json.Tree.text? runId).bind Uuid.parse?
  let device ← Field.required Json.Tree.text? device
  let startedAt ← (Field.required Json.Tree.text? startedAt).bind Timestamp.parse?
  let finishedAt ← (Field.required Json.Tree.text? finishedAt).bind Timestamp.parse?
  let durationMs ← Field.required Document.uint64? durationMs
  let overall ← Field.required Overall.read? overall
  let aggregate ← Field.required Aggregate.read? aggregate
  some ⟨runId, device, startedAt, finishedAt, durationMs, overall, aggregate⟩

end Report
end ModulatorHealth
