import ModulatorHealth.Device.Scripted

/-! What the answers of a scripted device depend on. Each query has a row of replies of its own: its
answer is the next reply of that row, and no other row is touched. -/
namespace ModulatorHealth

namespace Call

def isQuery : Call → Bool
  | .read _ | .dpdResults => true
  | .write _ _ | .paramTable | .dpdCommand _ => false

def param? : Call → Option ParamRef
  | .read p => some p
  | .write _ _ | .paramTable | .dpdResults | .dpdCommand _ => none

end Call

namespace ScriptedDevice

variable (d : ScriptedDevice)

/-- The replies that a query still has before it. -/
def row : (call : Call) → Script call.Result
  | .read p => d.script p
  | .dpdResults => d.dpd
  | .write _ _ | .paramTable | .dpdCommand _ => []

/-- The device with the row of one query, and nothing else. -/
def only : Call → ScriptedDevice
  | .read p => empty.withScript p (d.script p)
  | .dpdResults => { empty with dpd := d.dpd }
  | .write _ _ | .paramTable | .dpdCommand _ => empty

theorem script_withScript (p q : ParamRef) (script : Script ParamValue) :
    (d.withScript p script).script q = if q = p then script else d.script q := by
  by_cases same : q = p
  · subst same
    simp [ScriptedDevice.script, withScript]
  · have kept : (d.scripts.filter fun entry => entry.1 ≠ p).find? (fun entry => entry.1 = q) =
        d.scripts.find? fun entry => entry.1 = q := by
      rw [List.find?_filter]
      congr
      funext entry
      by_cases here : entry.1 = q
      · simp [here, same]
      · simp [here]
    simp only [ScriptedDevice.script, withScript, List.find?_cons, Ne.symm same, decide_false, kept,
      if_neg same]

@[simp] theorem row_only (call : Call) : (d.only call).row call = d.row call := by
  cases call <;> simp [only, row, script_withScript]

theorem only_congr {d e : ScriptedDevice} {call : Call} (same : d.row call = e.row call) :
    d.only call = e.only call := by
  cases call with
  | read p => exact congrArg (empty.withScript p) same
  | dpdResults => exact congrArg (fun dpd => { empty with dpd := dpd }) same
  | write | paramTable | dpdCommand => rfl

theorem read_fst (p : ParamRef) :
    (d.read p).1 = (d.script p).next?.1.getD
      (.error (.device ("Error getting param: " ++ p.text ++ " not found"))) := by
  have unlogged : ({ d with readLog := d.readLog ++ [p] } : ScriptedDevice).script p = d.script p := rfl
  simp only [read, unlogged]
  cases (d.script p).next? with
  | mk reply rest => cases reply <;> rfl

theorem script_read (p q : ParamRef) :
    (d.read p).2.script q = if q = p then (d.script p).next?.2 else d.script q := by
  have unlogged : ∀ x,
      ({ d with readLog := d.readLog ++ [p] } : ScriptedDevice).script x = d.script x := fun _ => rfl
  simp only [read, unlogged]
  match h : d.script p with
  | [] =>
    by_cases same : q = p
    · subst same
      simpa [Script.next?, unlogged] using h
    · simp [Script.next?, unlogged, same]
  | [reply] => simp [Script.next?, script_withScript, unlogged]
  | reply :: second :: rest => simp [Script.next?, script_withScript, unlogged]

theorem readLog_read (p : ParamRef) : (d.read p).2.readLog = d.readLog ++ [p] := by
  simp only [read]
  split <;> rfl

theorem dpd_read (p : ParamRef) : (d.read p).2.dpd = d.dpd := by
  simp only [read]
  split <;> rfl

theorem readDpd_fst :
    d.readDpd.1 = d.dpd.next?.1.getD (.error (.device "DPD state unknown")) := by
  unfold readDpd
  cases d.dpd.next? with
  | mk reply rest => cases reply <;> rfl

theorem dpd_readDpd : d.readDpd.2.dpd = d.dpd.next?.2 := by
  unfold readDpd
  match h : d.dpd with
  | [] => exact h
  | [reply] => rfl
  | reply :: second :: rest => rfl

theorem script_readDpd (q : ParamRef) : d.readDpd.2.script q = d.script q := by
  unfold readDpd
  split <;> rfl

theorem readLog_readDpd : d.readDpd.2.readLog = d.readLog := by
  unfold readDpd
  split <;> rfl

/-- The answer to a query is the next reply of its row, and without any it is that of a device that knows
nothing. -/
theorem answer_eq_next? {call : Call} (query : call.isQuery = true) :
    (answer call d).1 = (d.row call).next?.1.getD (answer call empty).1 ∧
      (answer call d).2.row call = (d.row call).next?.2 := by
  cases call with
  | read p =>
    simp only [answer, row, read_fst, script_read, if_true, and_true]
    rfl
  | dpdResults =>
    simp only [answer, row, readDpd_fst, dpd_readDpd, and_true]
    rfl
  | write | paramTable | dpdCommand => cases query

theorem answer_congr {d e : ScriptedDevice} {call : Call} (query : call.isQuery = true)
    (same : d.row call = e.row call) :
    (answer call d).1 = (answer call e).1 ∧
      (answer call d).2.row call = (answer call e).2.row call := by
  obtain ⟨reply, rest⟩ := d.answer_eq_next? query
  obtain ⟨reply', rest'⟩ := e.answer_eq_next? query
  rw [reply, reply', rest, rest', same]
  exact ⟨rfl, rfl⟩

theorem row_answer_of_ne {call other : Call} (query : call.isQuery = true) (ne : other ≠ call) :
    (answer call d).2.row other = d.row other := by
  cases call with
  | read p =>
    cases other with
    | read q =>
      have different : q ≠ p := fun equal => ne (by rw [equal])
      simp [answer, row, script_read, different]
    | dpdResults => exact d.dpd_read p
    | write | paramTable | dpdCommand => rfl
  | dpdResults =>
    cases other with
    | read q => exact d.script_readDpd q
    | dpdResults => exact absurd rfl ne
    | write | paramTable | dpdCommand => rfl
  | write | paramTable | dpdCommand => cases query

theorem readLog_answer {call : Call} (query : call.isQuery = true) :
    (answer call d).2.readLog = d.readLog ++ call.param?.toList := by
  cases call with
  | read p => exact d.readLog_read p
  | dpdResults => simp [answer, readLog_readDpd, Call.param?]
  | write | paramTable | dpdCommand => cases query

end ScriptedDevice
end ModulatorHealth
