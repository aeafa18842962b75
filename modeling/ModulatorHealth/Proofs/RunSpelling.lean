import ModulatorHealth.Proofs.IntegerTexts
import ModulatorHealth.Proofs.RunSchedule
import ModulatorHealth.Proofs.ScriptedRows
import Mathlib.Data.List.Forall2

/-! Runs on devices that spell their integers in different ways. To spell out the integers of a device
commutes with every step of a run on it, since the plans of the probes look at no more than the integer
view of a value. Devices that are the same when spelled out thus have the same runs. -/
namespace ModulatorHealth

open Json (Number)

/-- The same value, but for an integer that one of the two gives as a number and the other as the text of
its digits. -/
inductive ParamValue.Respelled : ParamValue → ParamValue → Prop where
  | kept (v : ParamValue) : Respelled v v
  | asText {n : Int} (fits : -9223372036854775808 ≤ n ∧ n < 18446744073709551616) :
      Respelled (.number (.integer n fits)) (.text (Number.text (.integer n fits)))
  | asNumber {n : Int} (fits : -9223372036854775808 ≤ n ∧ n < 18446744073709551616) :
      Respelled (.text (Number.text (.integer n fits))) (.number (.integer n fits))
  /-- The number that is written as a zero with a minus. -/
  | zeroAsText : Respelled (.number (.double (.zero true))) (.text "-0")
  | zeroAsNumber : Respelled (.text "-0") (.number (.double (.zero true)))

theorem ParamValue.Respelled.spelled_eq {v v' : ParamValue} (respelled : v.Respelled v') :
    v.spelled = v'.spelled := by
  cases respelled <;> rfl

inductive Reply.Respelled : Reply ParamValue → Reply ParamValue → Prop where
  | value {v v' : ParamValue} : v.Respelled v' → Respelled (.ok v) (.ok v')
  | error (e : CallError) : Respelled (.error e) (.error e)

def Call.spell : (call : Call) → Reply call.Result → Reply call.Result
  | .read _, reply => reply.map ParamValue.spelled
  | .write _ _, reply | .paramTable, reply | .dpdResults, reply | .dpdCommand _, reply => reply

namespace ScriptedDevice

abbrev RowsRespelled : (rows rows' : List (ParamRef × Script ParamValue)) → Prop :=
  List.Forall₂ fun row row' => row.1 = row'.1 ∧ List.Forall₂ Reply.Respelled row.2 row'.2

def Respelled (d d' : ScriptedDevice) : Prop :=
  ∃ scripts, d' = { d with scripts := scripts } ∧ RowsRespelled d.scripts scripts

def spelledScript (script : Script ParamValue) : Script ParamValue :=
  script.map (Except.map ParamValue.spelled)

def spelled (d : ScriptedDevice) : ScriptedDevice :=
  { d with scripts := d.scripts.map fun row => (row.1, spelledScript row.2) }

theorem spelledScript_eq {script script' : Script ParamValue}
    (respelled : List.Forall₂ Reply.Respelled script script') :
    spelledScript script = spelledScript script' := by
  induction respelled with
  | nil => rfl
  | cons here _ ih =>
    rw [spelledScript, List.map_cons, ← spelledScript, ih]
    cases here with
    | value same => rw [Except.map, same.spelled_eq]; rfl
    | error e => rfl

theorem map_spelledScript_eq {rows rows' : List (ParamRef × Script ParamValue)}
    (respelled : RowsRespelled rows rows') :
    rows.map (fun row => (row.1, spelledScript row.2)) =
      rows'.map fun row => (row.1, spelledScript row.2) := by
  induction respelled with
  | nil => rfl
  | cons here _ ih => rw [List.map_cons, List.map_cons, here.1, spelledScript_eq here.2, ih]

theorem Respelled.spelled_eq {d d' : ScriptedDevice} (respelled : d.Respelled d') :
    d.spelled = d'.spelled := by
  obtain ⟨scripts, rfl, rows⟩ := respelled
  rw [spelled, spelled, map_spelledScript_eq rows]

theorem Respelled.refl (d : ScriptedDevice) : d.Respelled d := by
  refine ⟨d.scripts, rfl, List.forall₂_same.mpr fun row _ => ⟨rfl, List.forall₂_same.mpr ?_⟩⟩
  rintro (e | v) -
  · exact .error e
  · exact .value (.kept v)

theorem RowsRespelled.filter {rows rows' : List (ParamRef × Script ParamValue)}
    (respelled : RowsRespelled rows rows') (p : ParamRef) :
    RowsRespelled (rows.filter fun row => row.1 ≠ p) (rows'.filter fun row => row.1 ≠ p) := by
  induction respelled with
  | nil => exact .nil
  | cons here _ ih =>
    simp only [List.filter_cons, here.1]
    split
    · exact .cons here ih
    · exact ih

theorem Respelled.withScript {d d' : ScriptedDevice} (respelled : d.Respelled d') (p : ParamRef)
    {script script' : Script ParamValue} (replies : List.Forall₂ Reply.Respelled script script') :
    (d.withScript p script).Respelled (d'.withScript p script') := by
  obtain ⟨scripts, rfl, rows⟩ := respelled
  exact ⟨_, rfl, .cons ⟨rfl, replies⟩ (rows.filter p)⟩

variable (d : ScriptedDevice)

theorem script_spelled (p : ParamRef) : d.spelled.script p = spelledScript (d.script p) := by
  simp only [script, spelled, List.find?_map, Function.comp_def]
  cases d.scripts.find? fun row => row.1 = p <;> rfl

theorem withScript_spelled (p : ParamRef) (script : Script ParamValue) :
    (d.withScript p script).spelled = d.spelled.withScript p (spelledScript script) := by
  simp only [withScript, spelled, List.map_cons, List.filter_map, Function.comp_def]

theorem next?_spelledScript (script : Script ParamValue) :
    Script.next? (spelledScript script) =
      (script.next?.1.map (Except.map ParamValue.spelled), spelledScript script.next?.2) := by
  match script with
  | [] | [_] | _ :: _ :: _ => rfl

theorem read_spelled (p : ParamRef) :
    d.spelled.read p = ((d.read p).1.map ParamValue.spelled, (d.read p).2.spelled) := by
  have logged (d : ScriptedDevice) (log : List ParamRef) :
      ({ d.spelled with readLog := log } : ScriptedDevice) = spelled { d with readLog := log } := rfl
  have log : d.spelled.readLog = d.readLog := rfl
  simp only [read, log, logged, script_spelled, next?_spelledScript]
  cases Script.next? (ScriptedDevice.script { d with readLog := d.readLog ++ [p] } p) with
  | mk reply rest =>
    cases reply with
    | none => rfl
    | some reply => simp only [Option.map_some, withScript_spelled]

theorem readDpd_spelled : d.spelled.readDpd = (d.readDpd.1, d.readDpd.2.spelled) := by
  have dpd : d.spelled.dpd = d.dpd := rfl
  rw [readDpd, readDpd, dpd]
  cases d.dpd.next? with
  | mk reply rest => cases reply <;> rfl

theorem answer_spelled {call : Call} (query : call.isQuery = true) :
    answer call d.spelled = (call.spell (answer call d).1, (answer call d).2.spelled) := by
  cases call with
  | read p => exact d.read_spelled p
  | dpdResults => exact d.readDpd_spelled
  | write | paramTable | dpdCommand => cases query

end ScriptedDevice

namespace Check

theorem sampled_spelled (what : String) (reply : Reply ParamValue) :
    sampled what (reply.map ParamValue.spelled) = sampled what reply := by
  cases reply with
  | ok v => exact numeric_spelled what v
  | error e => rfl

/-- The plan only asks, and goes on alike however an integer in an answer is spelled. -/
def Plan.Blind {α : Type} : Plan α → Prop
  | .done _ | .stalled => True
  | .call c next => c.isQuery = true ∧ ∀ reply, next (c.spell reply) = next reply ∧ (next reply).Blind
  | .sleep _ next | .progress _ next => next.Blind

theorem Plan.Blind.map {α β : Type} {plan : Plan α} (blind : plan.Blind) (f : α → β) :
    (plan.map f).Blind := by
  induction plan with
  | done | stalled => trivial
  | call c next ih =>
    refine ⟨blind.1, fun reply => ⟨?_, ih reply (blind.2 reply).2⟩⟩
    exact congrArg (Plan.map f) (blind.2 reply).1
  | sleep _ next ih | progress _ next ih => exact ih blind

theorem judged_blind (param : ParamRef) {verdict : ParamValue → Verdict}
    (blind : ∀ v, verdict v.spelled = verdict v) : (judged param verdict).Blind := by
  refine ⟨rfl, fun reply => ⟨?_, trivial⟩⟩
  cases reply with
  | ok v => simp only [Call.spell, Except.map, Except.mapError, Except.bind, blind v]
  | error e => rfl

theorem modulating_blind (recheckDelayMs : Nat) : (modulating recheckDelayMs).Blind := by
  refine ⟨rfl, fun reply => ⟨?_, ?_⟩⟩
  · cases reply with
    | ok v =>
      simp only [Call.spell, Except.map, Except.mapError, Except.bind, firstFrames, numeric_spelled]
    | error e => rfl
  · dsimp only
    split
    · trivial
    · refine ⟨rfl, fun reply => ⟨?_, trivial⟩⟩
      simp only [Call.spell, sampled_spelled]

theorem Counter.sampleRounds_blind (c : Counter) (history : SampleHistory) (remaining : Nat) :
    (c.sampleRounds history remaining).Blind := by
  induction remaining generalizing history with
  | zero =>
    refine ⟨rfl, fun reply => ⟨?_, trivial⟩⟩
    simp only [Call.spell, sampled_spelled]
  | succ remaining ih =>
    refine ⟨rfl, fun reply => ⟨?_, ?_⟩⟩
    · simp only [Call.spell, sampled_spelled]
    · dsimp only
      split
      · trivial
      · exact ih _

theorem planOf_blind (config : CheckConfig) (id : ProbeId) : (planOf config id).Blind := by
  cases id with
  | rcReachable =>
    refine ⟨rfl, fun reply => ⟨?_, trivial⟩⟩
    cases reply <;> rfl
  | modulating => exact modulating_blind _
  | gpsdoQuality =>
    exact judged_blind _ fun v => by rw [gpsdoVerdict, gpsdoVerdict, numeric_spelled]
  | sampleRate =>
    exact judged_blind _ fun v => by rw [sampleRateVerdict, sampleRateVerdict, numeric_spelled]
  | underruns => exact ((Counter.underruns config).sampleRounds_blind _ _).map _
  | latePackets => exact ((Counter.latePackets config).sampleRounds_blind _ _).map _
  | dpdEngine => exact ⟨rfl, fun reply => ⟨rfl, trivial⟩⟩

def World.spelled (w : World ScriptedDevice) : World ScriptedDevice :=
  { w with device := w.device.spelled }

theorem World.resolve_spelled (w : World ScriptedDevice) (id : ProbeId) (o : Outcome) :
    w.spelled.resolve id o = (w.resolve id o).spelled := by
  have tracker : w.spelled.tracker = w.tracker := rfl
  rw [resolve, resolve, tracker]
  cases w.tracker.resolve id o <;> rfl

namespace Chain

def Blind (chain : Chain) : Prop := ∀ entry ∈ chain, entry.2.Blind

theorem step_spelled {chain : Chain} (blind : chain.Blind) (w : World ScriptedDevice) :
    chain.step (answering ScriptedDevice.answer) w.spelled =
        ((chain.step (answering ScriptedDevice.answer) w).1,
          (chain.step (answering ScriptedDevice.answer) w).2.spelled) ∧
      (chain.step (answering ScriptedDevice.answer) w).1.Blind := by
  match chain with
  | [] => exact ⟨rfl, blind⟩
  | (id, plan) :: rest =>
    obtain ⟨here, later⟩ : plan.Blind ∧ Blind rest := List.forall_mem_cons.mp blind
    have goes_on {next : Plan Verdict} (blind : next.Blind) : Blind ((id, next) :: rest) :=
      List.forall_mem_cons.mpr ⟨blind, later⟩
    match plan with
    | .done verdict => exact ⟨by simp only [step, World.resolve_spelled], later⟩
    | .stalled => exact ⟨rfl, blind⟩
    | .sleep ms next => exact ⟨rfl, goes_on here⟩
    | .progress comment next => exact ⟨rfl, goes_on here⟩
    | .call c next =>
      obtain ⟨query, alike⟩ := here
      refine ⟨?_, goes_on (alike _).2⟩
      -- The device answers in its spelling, which the plan does not see.
      have answer := w.device.answer_spelled query
      have device : w.spelled.device = w.device.spelled := rfl
      simp only [step, Plan.step, answering, World.note_device, device, answer, (alike _).1]
      rfl

end Chain

namespace Run

def spelled (r : Run ScriptedDevice) : Run ScriptedDevice := { r with world := r.world.spelled }

def Blind (r : Run ScriptedDevice) : Prop := ∀ part, (r.chain part).Blind

theorem blind_start (config : CheckConfig) (w : World ScriptedDevice) : (start config w).Blind := by
  have probes (ids : List ProbeId) : (Chain.ofProbes config ids).Blind := by
    intro entry member
    obtain ⟨id, -, rfl⟩ := List.mem_map.mp member
    exact planOf_blind config id
  intro part
  cases part <;> exact probes _

theorem chain_spelled (r : Run ScriptedDevice) (part : Part) : r.spelled.chain part = r.chain part := by
  cases part <;> rfl

theorem put_spelled (r : Run ScriptedDevice) (part : Part) (chain : Chain) (w : World ScriptedDevice) :
    r.spelled.put part (chain, w.spelled) = (r.put part (chain, w)).spelled := by
  cases part <;> rfl

theorem step_spelled {r : Run ScriptedDevice} (blind : r.Blind) (branch : Branch) :
    r.spelled.step (answering ScriptedDevice.answer) branch =
        (r.step (answering ScriptedDevice.answer) branch).spelled ∧
      (r.step (answering ScriptedDevice.answer) branch).Blind := by
  obtain ⟨moved, kept⟩ := Chain.step_spelled (blind (r.turn branch)) r.world
  have turn : r.spelled.turn branch = r.turn branch := rfl
  have world : r.spelled.world = r.world.spelled := rfl
  rw [step_eq, step_eq, turn, chain_spelled, world, moved, put_spelled]
  exact ⟨rfl, forall_chain_put blind kept⟩

/-- A device may be spelled out before the run or after it. By induction on the schedule. -/
theorem follow_spelled {r : Run ScriptedDevice} (blind : r.Blind) (schedule : List Branch) :
    r.spelled.follow (answering ScriptedDevice.answer) schedule =
      (r.follow (answering ScriptedDevice.answer) schedule).spelled := by
  induction schedule generalizing r with
  | nil => rfl
  | cons branch rest ih =>
    obtain ⟨moved, kept⟩ := step_spelled blind branch
    rw [follow_cons, follow_cons, moved, ih kept]

/-- Two devices of which one gives some integers as numbers and the other as texts, under the same
schedule: at every point both runs have got as far, with the same aggregate, log and trace and as many
reads of each parameter; and both end under every fair schedule. -/
theorem follow_eq_of_respelled {d d' : ScriptedDevice} (respelled : d.Respelled d')
    (config : CheckConfig) (tracker : Tracker) :
    let begun (d : ScriptedDevice) := start config (World.start d tracker)
    (∀ turns, Fair turns → ∃ n, ∀ m, n ≤ m →
        ((begun d).stage (answering ScriptedDevice.answer) turns m).isFinished = true ∧
        ((begun d').stage (answering ScriptedDevice.answer) turns m).isFinished = true) ∧
      ∀ schedule,
        let now := (begun d).follow (answering ScriptedDevice.answer) schedule
        let now' := (begun d').follow (answering ScriptedDevice.answer) schedule
        now.isFinished = now'.isFinished ∧ now.aggregate = now'.aggregate ∧
        now.world.log = now'.world.log ∧ now.world.trace = now'.world.trace ∧
        ∀ p, now.world.device.readCount p = now'.world.device.readCount p := by
  intro begun
  have same (schedule : List Branch) :
      ((begun d).follow (answering ScriptedDevice.answer) schedule).spelled =
        ((begun d').follow (answering ScriptedDevice.answer) schedule).spelled := by
    have started (d : ScriptedDevice) : (begun d).spelled = begun d.spelled := rfl
    rw [← follow_spelled (blind_start config _), ← follow_spelled (blind_start config _), started,
      started, respelled.spelled_eq]
  have finished (schedule : List Branch) := (congrArg isFinished (same schedule) :)
  refine ⟨fun turns fair => ?_, fun schedule => ⟨finished schedule, ?_, ?_, ?_, fun p => ?_⟩⟩
  · obtain ⟨n, ended⟩ := (orderly_start config (World.start d tracker)).finishes
      (answers_answering ScriptedDevice.answer) fair
    exact ⟨n, fun m le => ⟨ended m le, (finished _).symm.trans (ended m le)⟩⟩
  · exact (congrArg aggregate (same schedule) :)
  · exact (congrArg (fun r => r.world.log) (same schedule) :)
  · exact (congrArg (fun r => r.world.trace) (same schedule) :)
  · exact (congrArg (fun r => r.world.device.readCount p) (same schedule) :)

theorem follow_eq_rate_and_counter :
    let rate : ParamRef := ⟨"modulator", "rate"⟩
    let underruns : ParamRef := ⟨"sdr", "underruns"⟩
    let numbers := ScriptedDevice.healthy
      |>.withScript rate [.ok (.number (.integer 8192000 (by decide)))]
      |>.withScript underruns [.ok (.number (.integer 9223372036854775808 (by decide)))]
    let texts := ScriptedDevice.healthy
      |>.withTexts rate ["8192000"] |>.withTexts underruns ["9223372036854775808"]
    let ended (d : ScriptedDevice) (schedule : List Branch) :=
      (start .standard (World.start d .new)).follow (answering ScriptedDevice.answer) schedule
    numbers.Respelled texts ∧
      ∃ schedule, (ended numbers schedule).isFinished = true ∧
        (ended texts schedule).isFinished = true ∧
        (ended numbers schedule).aggregate = (ended texts schedule).aggregate ∧
        ∀ p, (ended numbers schedule).world.device.readCount p =
          (ended texts schedule).world.device.readCount p := by
  intro rate underruns numbers texts ended
  have respelled : numbers.Respelled texts :=
    ((ScriptedDevice.Respelled.refl _).withScript rate (.cons (.value (.asText _)) .nil)).withScript
      underruns (.cons (.value (.asText _)) .nil)
  obtain ⟨schedule, -, finished⟩ := exists_schedule_of_run
    (answers_answering ScriptedDevice.answer) .standard (World.start numbers .new)
  obtain ⟨same, aggregate, -, -, reads⟩ :=
    (follow_eq_of_respelled respelled .standard .new).2 schedule
  exact ⟨respelled, schedule, finished, same.symm.trans finished, aggregate, reads⟩

end Run
end Check
end ModulatorHealth
