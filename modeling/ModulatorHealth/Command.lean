import ModulatorHealth.Check.Run
import ModulatorHealth.Inquiry

/-! The commands: a query, or the health check, which prints what it sees and then its report. -/
namespace ModulatorHealth

inductive Command where
  | check (json : Bool)
  | ask (query : Query)
deriving DecidableEq

/-- What a run takes from outside: the random number behind its identifier, and the clock. -/
structure Occasion where
  random : Nat
  startedAt : Timestamp
  finishedAt : Timestamp

namespace Command

/-- The lines in which the states that were seen during a run differ, from the pending one on. -/
def liveLines (shown : Aggregate) : List Aggregate → List String
  | [] => []
  | current :: rest => Terminal.transitions shown current ++ liveLines current rest

def checkLines (json : Bool) (device : String) (seen : List Aggregate) (r : Report) :
    List String :=
  if json then [r.toJson.pretty]
  else
    ["Checking " ++ device] ++ liveLines .standard (seen ++ [r.aggregate]) ++ [""]
      ++ Terminal.reportLines r

/-- What of it is printed by the time that these states were seen. -/
def shownLines (json : Bool) (device : String) (seen : List Aggregate) : List String :=
  if json then [] else ["Checking " ++ device] ++ liveLines .standard seen

def completionEvent (r : Report) : Log.Event :=
  ⟨.info, [("run_id", r.runId.text), ("overall", r.overall.label)], "Run complete"⟩

def checkStatus (r : Report) : ExitStatus := if r.isOk then .success else .degraded

def reportOf (device : String) (occasion : Occasion) (aggregate : Aggregate) : Report :=
  .ofRun occasion.random device occasion.startedAt occasion.finishedAt aggregate

end Command

structure Finished where
  lines : List String
  status : ExitStatus
  failure : Option Failure
deriving DecidableEq

namespace Finished

def ofFailure (f : Failure) : Finished := ⟨[], f.status, some f⟩

def ofLines : Except Failure (List String) → Finished
  | .ok lines => ⟨lines, .success, none⟩
  | .error f => ofFailure f

end Finished

namespace Command

/-- A query makes one call, or none if its parameter has a blank name. -/
def runQuery {σ : Type} (query : Query) (client : Client σ) (device : σ) : Finished × σ :=
  match Inquiry.ofQuery query with
  | .error f => (.ofFailure f, device)
  | .ok inquiry =>
    let (result, device) := inquiry.run client device
    (.ofLines result, device)

def concludeCheck (json : Bool) (name : String) (occasion : Occasion) (seen : List Aggregate)
    (aggregate : Aggregate) : Finished :=
  let report := reportOf name occasion aggregate
  ⟨checkLines json name seen report, checkStatus report, none⟩

def runCheck {σ : Type} (json : Bool) (name : String) (checks : CheckConfig) (occasion : Occasion)
    (client : Client σ) (device : σ) : Finished × σ :=
  let run := Check.run (Check.answering client) checks (.start device .new)
  (concludeCheck json name occasion [] run.aggregate, run.world.device)

def run {σ : Type} (command : Command) (name : String) (checks : CheckConfig) (occasion : Occasion)
    (client : Client σ) (device : σ) : Finished × σ :=
  match command with
  | .check json => runCheck json name checks occasion client device
  | .ask query => runQuery query client device

end Command
end ModulatorHealth
