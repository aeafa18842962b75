import ModulatorHealth.Command
import Std.Sync.Mutex

/-! A health check in real time. The two chains go on in threads of their own and share the world,
and what changes in it is shown and logged at once. -/
namespace ModulatorHealth.Program

/-- The world that the chains share, and the published states that were seen. -/
structure Display where
  world : Check.World Unit
  seen : List Aggregate

def Display.shown (d : Display) : Aggregate := d.seen.getLastD .standard

def Display.update (d : Display) (world : Check.World Unit) : Display where
  world := world
  seen :=
    if world.tracker.published = d.world.tracker.published then d.seen
    else d.seen ++ [world.tracker.aggregate]

/-- How a run is watched: whether its states are printed, and what becomes of its log. -/
structure Watch where
  live : Bool
  log : List Log.Event → IO Unit
  display : Std.Mutex Display

/-- Changes the world, then shows and logs what changed. No other change comes in between. -/
def Watch.change {α : Type} (watch : Watch) (f : Check.World Unit → α × Check.World Unit) : IO α :=
  watch.display.atomically do
    let before ← get
    let (result, world) := f before.world
    let after := before.update world
    set after
    if watch.live then
      IO.print (Terminal.printed (Terminal.transitions before.shown after.shown))
    watch.log (world.log.drop before.world.log.length)
    return result

/-- No call is made here: calls are answered before a step is taken. -/
def unused : Check.Channel Unit := fun _ device => (none, device)

/-- Waits for any number of milliseconds, as many at a time as the clock can count. -/
def sleep (milliseconds : Nat) : IO Unit := do
  let longest : UInt32 := 0xFFFFFFFF
  for _ in List.range (milliseconds / longest.toNat) do
    IO.sleep longest
  IO.sleep (milliseconds % longest.toNat).toUInt32

partial def follow (ask : (call : Call) → IO (Reply call.Result)) (watch : Watch) :
    Check.Chain → IO Unit
  | [] => return
  | (id, .call c next) :: rest => do
    watch.change fun w => ((), w.note (.called id c w.tracker.aggregate))
    let reply ← ask c
    follow ask watch ((id, next reply) :: rest)
  | (id, .sleep ms next) :: rest => do
    sleep ms
    watch.change fun w => ((), w.note (.slept id ms))
    follow ask watch ((id, next) :: rest)
  | chain => do
    let chain ← watch.change fun w => chain.step unused w
    follow ask watch chain

def runLive (ask : (call : Call) → IO (Reply call.Result)) (live : Bool)
    (log : List Log.Event → IO Unit) (checks : CheckConfig) : IO (List Aggregate × Aggregate) := do
  let run := Check.Run.start checks (.start () .new)
  log run.world.log
  let watch : Watch := ⟨live, log, ← Std.Mutex.new ⟨run.world, []⟩⟩
  follow ask watch run.gate
  let late ← IO.asTask (follow ask watch run.late) .dedicated
  follow ask watch run.main
  IO.ofExcept late.get
  watch.change fun w => ((), (Check.Run.mk [] [] [] w).close)
  watch.display.atomically do
    let d ← get
    return (d.seen, d.world.tracker.aggregate)

end ModulatorHealth.Program
