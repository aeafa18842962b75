import ModulatorHealth.Aggregate
import ModulatorHealth.Log

/-! The live state of a run. Every change is published: subscribers learn that there is something
they have not seen, and see the current aggregate when they look. -/
namespace ModulatorHealth

structure Tracker where
  order : List ProbeId
  aggregate : Aggregate
  published : Nat
  /-- For each subscriber, the publications up to which it has seen the aggregate. -/
  seen : List Nat

namespace Tracker

def withOrder (order : List ProbeId) : Tracker := ⟨order, .new order, 0, []⟩

def new : Tracker := withOrder ProbeId.order

def publish (t : Tracker) (aggregate : Aggregate) : Tracker :=
  { t with aggregate := aggregate, published := t.published + 1 }

def reset (t : Tracker) : Tracker := t.publish (.new t.order)

def progress (t : Tracker) (id : ProbeId) (comment : String) : Tracker × List Log.Event :=
  match t.aggregate.setProgress id comment with
  | .ok aggregate => (t.publish aggregate, [])
  | .error e => (t, [⟨.warn, [], "Dropping progress update: " ++ e.message⟩])

def outcomeEvent (id : ProbeId) (outcome : Outcome) : Log.Event :=
  match outcome with
  | .fail reason => ⟨.warn, [("probe", id.name)], "FAIL: " ++ reason⟩
  | .ok comment | .pending comment =>
    ⟨.info, [("probe", id.name)], outcome.label ++ (comment.map (": " ++ ·)).getD ""⟩

/-- The outcome of a probe; a rejected one is neither published nor logged. -/
def resolve (t : Tracker) (id : ProbeId) (outcome : Outcome) :
    Except Aggregate.Rejection (Tracker × List Log.Event) :=
  (t.aggregate.resolve id outcome).map fun aggregate =>
    (t.publish aggregate, [outcomeEvent id outcome])

/-- A new subscriber, which has seen everything so far, and its number. -/
def subscribe (t : Tracker) : Tracker × Nat :=
  ({ t with seen := t.seen ++ [t.published] }, t.seen.length)

def hasChanged (t : Tracker) (subscriber : Nat) : Bool :=
  match t.seen[subscriber]? with
  | some seen => seen != t.published
  | none => false

def take (t : Tracker) (subscriber : Nat) : Tracker × Aggregate :=
  ({ t with seen := t.seen.set subscriber t.published }, t.aggregate)

end Tracker
end ModulatorHealth
