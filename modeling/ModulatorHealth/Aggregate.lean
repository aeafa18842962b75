import ModulatorHealth.Outcome
import ModulatorHealth.ProbeId

/-! The outcomes of one run, and the overall status that follows from them. -/
namespace ModulatorHealth

inductive Overall where
  | running
  | ok
  | degraded
deriving DecidableEq

namespace Overall

def label : Overall → String
  | .running => "RUNNING"
  | .ok => "OK"
  | .degraded => "DEGRADED"

def name : Overall → String
  | .running => "running"
  | .ok => "ok"
  | .degraded => "degraded"

def ofName? (name : String) : Option Overall :=
  [Overall.running, .ok, .degraded].find? fun status => status.name = name

def toJson (status : Overall) : Json := .string status.name

def read? (tree : Json.Tree) : Option Overall := tree.word?.bind ofName?

end Overall

structure Aggregate.Entry where
  id : ProbeId
  outcome : Outcome
deriving DecidableEq

/-- The outcomes in order, and a latch that the first failure sets for good. -/
structure Aggregate where
  entries : List Aggregate.Entry
  failureSeen : Bool
deriving DecidableEq

namespace Aggregate

inductive Rejection where
  | unknownProbe (id : ProbeId)
  | alreadyTerminal (id : ProbeId)
deriving DecidableEq

def Rejection.message : Rejection → String
  | .unknownProbe id => "Probe " ++ id.name ++ " is not part of this run"
  | .alreadyTerminal id => "Probe " ++ id.name ++ " already reached a terminal outcome"

def firstOccurrences (order : List ProbeId) : List ProbeId :=
  order.foldl (fun seen id => if id ∈ seen then seen else seen ++ [id]) []

def new (order : List ProbeId) : Aggregate where
  entries := (firstOccurrences order).map fun id => ⟨id, .pending none⟩
  failureSeen := false

def standard : Aggregate := new ProbeId.order

def outcome? (a : Aggregate) (id : ProbeId) : Option Outcome :=
  (a.entries.find? fun entry => entry.id = id).map Entry.outcome

/-- Replaces the outcome of the first entry of a probe. -/
def Entry.assign (id : ProbeId) (outcome : Outcome) : List Entry → List Entry
  | [] => []
  | entry :: rest =>
    if entry.id = id then ⟨id, outcome⟩ :: rest else entry :: assign id outcome rest

def checkPending (a : Aggregate) (id : ProbeId) : Except Rejection Unit :=
  match a.outcome? id with
  | none => .error (.unknownProbe id)
  | some outcome => if outcome.isTerminal then .error (.alreadyTerminal id) else .ok ()

def setProgress (a : Aggregate) (id : ProbeId) (progress : String) : Except Rejection Aggregate :=
  (a.checkPending id).map fun _ =>
    { a with entries := Entry.assign id (.pending (some progress)) a.entries }

def resolve (a : Aggregate) (id : ProbeId) (outcome : Outcome) : Except Rejection Aggregate :=
  (a.checkPending id).map fun _ =>
    { entries := Entry.assign id outcome a.entries
      failureSeen := a.failureSeen || outcome.isFail }

def markOk (a : Aggregate) (id : ProbeId) (comment : Option String) : Except Rejection Aggregate :=
  a.resolve id (.ok comment)

def markFail (a : Aggregate) (id : ProbeId) (reason : String) : Except Rejection Aggregate :=
  a.resolve id (.fail reason)

def isComplete (a : Aggregate) : Bool := a.entries.all (·.outcome.isTerminal)

def overall (a : Aggregate) : Overall :=
  if a.failureSeen then .degraded
  else if a.entries.all (·.outcome.isOk) then .ok
  else .running

def overallOk (a : Aggregate) : Bool := a.overall = .ok

structure Counts where
  ok : Nat
  failed : Nat
  pending : Nat
deriving DecidableEq

def counts (a : Aggregate) : Counts where
  ok := a.entries.countP (·.outcome.isOk)
  failed := a.entries.countP (·.outcome.isFail)
  pending := a.entries.countP (·.outcome.isPending)

def Entry.toJson (entry : Entry) : Json :=
  .object [("id", entry.id.toJson), ("outcome", entry.outcome.toJson)]

def Entry.read? (tree : Json.Tree) : Option Entry := do
  let [id, outcome] ← tree.fields? ["id", "outcome"] | none
  let id ← Field.required ProbeId.read? id
  let outcome ← Field.required Outcome.read? outcome
  some ⟨id, outcome⟩

def toJson (a : Aggregate) : Json :=
  .object [("probes", .array (a.entries.map Entry.toJson)), ("failure_seen", .bool a.failureSeen)]

def read? (tree : Json.Tree) : Option Aggregate := do
  let [probes, failureSeen] ← tree.fields? ["probes", "failure_seen"] | none
  let entries ← Field.required (Json.Tree.list? Entry.read?) probes
  let failureSeen ← Field.required Json.Tree.bool? failureSeen
  some ⟨entries, failureSeen⟩

end Aggregate
end ModulatorHealth
