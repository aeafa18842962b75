import ModulatorHealth.Proofs.RunStep

/-! What a probe does, deed by deed: its calls, its words on progress and its waits. The deeds of a probe
decide what the world is after it, and the device decides what it answers each time it is asked the
same. -/
namespace ModulatorHealth

namespace Client

variable {σ : Type} (client : Client σ) (call : Call) (device : σ)

end Client

namespace Check

inductive Deed where
  | called (call : Call)
  | told (comment : String)
  | slept (milliseconds : Nat)

namespace Deed

def call? : Deed → Option Call
  | .called call => some call
  | .told _ | .slept _ => none

def delay? : Deed → Option Nat
  | .slept ms => some ms
  | .called _ | .told _ => none

end Deed

namespace World

variable {σ : Type}

def calls (w : World σ) : List Call :=
  w.trace.filterMap fun
    | .called _ call _ => some call
    | .slept _ _ => none

variable (client : Client σ) (id : ProbeId) (w : World σ)

def perform : Deed → World σ
  | .called call =>
    { w.note (.called id call w.tracker.aggregate) with device := (client call w.device).2 }
  | .told comment => w.progress id comment
  | .slept ms => w.note (.slept id ms)

end World

end Check
end ModulatorHealth
