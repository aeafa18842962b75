import ModulatorHealth.Check.Plan
import ModulatorHealth.Tracker

/-! Runs of the health check. Three probes gate: each starts when the one before it is resolved.
Then two chains go on side by side, the late packets alone in one of them, and a schedule says whose
step comes next. A probe that fails never stops the ones after it. -/
namespace ModulatorHealth.Check

/-- A device that may leave a call without an answer. -/
abbrev Channel (σ : Type) : Type := (call : Call) → σ → Option (Reply call.Result) × σ

def answering {σ : Type} (client : Client σ) : Channel σ := fun call device =>
  let (reply, device) := client call device
  (some reply, device)

inductive Event where
  | called (probe : ProbeId) (call : Call) (seen : Aggregate)
  | slept (probe : ProbeId) (milliseconds : Nat)

structure World (σ : Type) where
  device : σ
  tracker : Tracker
  log : List Log.Event
  trace : List Event

namespace World

variable {σ : Type}

def start (device : σ) (tracker : Tracker) : World σ := ⟨device, tracker, [], []⟩

def note (w : World σ) (event : Event) : World σ := { w with trace := w.trace ++ [event] }

def write (w : World σ) (events : List Log.Event) : World σ := { w with log := w.log ++ events }

def progress (w : World σ) (id : ProbeId) (comment : String) : World σ :=
  let (tracker, events) := w.tracker.progress id comment
  { w with tracker := tracker }.write events

def resolve (w : World σ) (id : ProbeId) (outcome : Outcome) : World σ :=
  match w.tracker.resolve id outcome with
  | .ok (tracker, events) => { w with tracker := tracker }.write events
  | .error e => w.write [⟨.warn, [("probe", id.name)], "Outcome not recorded: " ++ e.message⟩]

def delays (w : World σ) : List Nat :=
  w.trace.filterMap fun
    | .slept _ ms => some ms
    | .called _ _ _ => none

end World

namespace Plan

variable {σ α : Type}

/-- One step of a plan. A call takes effect and is answered in the same step. -/
def step (channel : Channel σ) (id : ProbeId) : Plan α → World σ → Plan α × World σ
  | .done result, w => (.done result, w)
  | .stalled, w => (.stalled, w)
  | .call c next, w =>
    let w := w.note (.called id c w.tracker.aggregate)
    match channel c w.device with
    | (some reply, device) => (next reply, { w with device := device })
    | (none, device) => (.stalled, { w with device := device })
  | .sleep ms next, w => (next, w.note (.slept id ms))
  | .progress comment next, w => (next, w.progress id comment)

def run (channel : Channel σ) (id : ProbeId) : Plan α → World σ → Option α × World σ
  | .done result, w => (some result, w)
  | .stalled, w => (none, w)
  | .call c next, w =>
    let w := w.note (.called id c w.tracker.aggregate)
    match channel c w.device with
    | (some reply, device) => (next reply).run channel id { w with device := device }
    | (none, device) => (none, { w with device := device })
  | .sleep ms next, w => next.run channel id (w.note (.slept id ms))
  | .progress comment next, w => next.run channel id (w.progress id comment)

end Plan

/-- Probes that follow one another, each with what is left of its plan. -/
abbrev Chain : Type := List (ProbeId × Plan Verdict)

namespace Chain

variable {σ : Type}

def ofProbes (config : CheckConfig) (ids : List ProbeId) : Chain :=
  ids.map fun id => (id, planOf config id)

def step (channel : Channel σ) : Chain → World σ → Chain × World σ
  | [], w => ([], w)
  | (id, .done verdict) :: rest, w => (rest, w.resolve id verdict.outcome)
  | (id, plan) :: rest, w =>
    let (plan, w) := plan.step channel id w
    ((id, plan) :: rest, w)

def run (channel : Channel σ) : Chain → World σ → Chain × World σ
  | [], w => ([], w)
  | (id, plan) :: rest, w =>
    match plan.run channel id w with
    | (some verdict, w) => run channel rest (w.resolve id verdict.outcome)
    | (none, w) => ((id, .stalled) :: rest, w)

end Chain

def gatingProbes : List ProbeId := [.rcReachable, .modulating, .gpsdoQuality]

def lateProbes : List ProbeId := [.latePackets]

def mainProbes : List ProbeId := [.underruns, .sampleRate, .dpdEngine]

inductive Branch where
  | late
  | main
deriving DecidableEq

structure Run (σ : Type) where
  gate : Chain
  late : Chain
  main : Chain
  world : World σ

namespace Run

variable {σ : Type}

def start (config : CheckConfig) (w : World σ) : Run σ where
  gate := .ofProbes config gatingProbes
  late := .ofProbes config lateProbes
  main := .ofProbes config mainProbes
  world := { w with tracker := w.tracker.reset }.write [⟨.info, [], "Health check started"⟩]

/-- One step: of the gating probes as long as there are any, then of the scheduled branch. -/
def step (channel : Channel σ) (branch : Branch) (r : Run σ) : Run σ :=
  if r.gate.isEmpty then
    match branch with
    | .late =>
      let (late, w) := r.late.step channel r.world
      { r with late := late, world := w }
    | .main =>
      let (main, w) := r.main.step channel r.world
      { r with main := main, world := w }
  else
    let (gate, w) := r.gate.step channel r.world
    { r with gate := gate, world := w }

def follow (channel : Channel σ) (schedule : List Branch) (r : Run σ) : Run σ :=
  schedule.foldl (fun r branch => r.step channel branch) r

/-- Everything that can still happen, the late packets first. -/
def finish (channel : Channel σ) (r : Run σ) : Run σ :=
  let (gate, w) := r.gate.run channel r.world
  if gate.isEmpty then
    let (late, w) := r.late.run channel w
    let (main, w) := r.main.run channel w
    ⟨gate, late, main, w⟩
  else { r with gate := gate, world := w }

def isFinished (r : Run σ) : Bool := r.gate.isEmpty && r.late.isEmpty && r.main.isEmpty

def aggregate (r : Run σ) : Aggregate := r.world.tracker.aggregate

def closingEvent (a : Aggregate) : Log.Event :=
  let counts := a.counts
  ⟨.info,
    [("overall", a.overall.label), ("ok", toString counts.ok), ("fail", toString counts.failed),
      ("pending", toString counts.pending)],
    "Health check finished"⟩

def close (r : Run σ) : World σ :=
  if r.isFinished then r.world.write [closingEvent r.aggregate] else r.world

end Run

def run (channel : Channel σ) (config : CheckConfig) (w : World σ) : Run σ :=
  (Run.start config w).finish channel

/-- The time that a run takes on a device that answers at once: the two chains wait at the same
time. -/
def elapsedMs (trace : List Event) : Nat :=
  let waited (ids : List ProbeId) : Nat :=
    trace.foldl (fun total event =>
      match event with
      | .slept id ms => if id ∈ ids then total + ms else total
      | .called _ _ _ => total) 0
  waited gatingProbes + max (waited lateProbes) (waited mainProbes)

end ModulatorHealth.Check
