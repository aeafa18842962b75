import ModulatorHealth.Json.Reader

/-! What is known about one probe in one run. -/
namespace ModulatorHealth

inductive Outcome where
  | pending (progress : Option String)
  | ok (comment : Option String)
  | fail (reason : String)
deriving DecidableEq

namespace Outcome

def isTerminal : Outcome → Bool
  | .pending _ => false
  | .ok _ | .fail _ => true

def isOk : Outcome → Bool
  | .ok _ => true
  | .pending _ | .fail _ => false

def isFail : Outcome → Bool
  | .fail _ => true
  | .pending _ | .ok _ => false

def isPending (o : Outcome) : Bool := !o.isTerminal

def comment : Outcome → Option String
  | .pending c | .ok c => c
  | .fail reason => some reason

def label : Outcome → String
  | .pending _ => "PENDING"
  | .ok _ => "OK"
  | .fail _ => "FAIL"

def state : Outcome → String
  | .pending _ => "pending"
  | .ok _ => "ok"
  | .fail _ => "fail"

def toJson (o : Outcome) : Json :=
  .object [("state", .string o.state), ("comment", .ofText? o.comment)]

/-- A failure needs its reason; the other comments may be missing or null. -/
def ofParts? (state : String) (comment : Option Json.Tree) : Option Outcome :=
  match state with
  | "pending" => (Field.optional Json.Tree.text? comment).map .pending
  | "ok" => (Field.optional Json.Tree.text? comment).map .ok
  | "fail" => (Field.required Json.Tree.text? comment).map .fail
  | _ => none

/-- As an array an outcome has exactly two items. -/
def read? (tree : Json.Tree) : Option Outcome := do
  let parts ← match tree with
    | .array items => if items.length = 2 then some (items.map some) else none
    | _ => tree.fields? ["state", "comment"]
  let [state, comment] := parts | none
  let state ← Field.required Json.Tree.word? state
  ofParts? state comment

end Outcome
end ModulatorHealth
