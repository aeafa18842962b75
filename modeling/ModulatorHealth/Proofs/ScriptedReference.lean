import ModulatorHealth.Proofs.ScriptedRows
import Mathlib.Data.List.Induction

/-! The scripted device and a description of it without state. The description knows the scripts from the
start and what was called and answered since: a read takes the item of its script at the number of the
reads before it, the last item for good, until a write to the parameter succeeds. -/
namespace ModulatorHealth

namespace Call

def target? : Call → Option ParamRef
  | .read p | .write p _ => some p
  | .paramTable | .dpdResults | .dpdCommand _ => none

end Call

structure Answered where
  call : Call
  reply : Reply call.Result

namespace Answered

def read? (a : Answered) : Option ParamRef := a.call.param?

def write? : Answered → Option (ParamRef × ParamValue)
  | ⟨.write p value, .ok _⟩ => some (p, value)
  | _ => none

def writtenTo? (p : ParamRef) (a : Answered) : Option ParamValue :=
  a.write?.bind fun entry => if entry.1 = p then some entry.2 else none

end Answered

namespace Client

variable {σ : Type} (client : Client σ) (device : σ) (calls : List Call) (call : Call)

def after : σ := calls.foldl (fun device call => (client call device).2) device

def answered (device : σ) : List Call → List Answered
  | [] => []
  | call :: rest => ⟨call, (client call device).1⟩ :: answered (client call device).2 rest

theorem after_concat :
    client.after device (calls ++ [call]) = (client call (client.after device calls)).2 := by
  simp [after]

theorem answered_concat :
    client.answered device (calls ++ [call]) =
      client.answered device calls ++ [⟨call, (client call (client.after device calls)).1⟩] := by
  induction calls generalizing device with
  | nil => rfl
  | cons first rest ih => exact congrArg (List.cons _) (ih (client first device).2)

theorem filterMap_read?_answered :
    (client.answered device calls).filterMap Answered.read? = calls.filterMap Call.param? := by
  induction calls generalizing device with
  | nil => rfl
  | cons first rest ih =>
    rw [answered, List.filterMap_cons, List.filterMap_cons, ih]
    rfl

end Client

namespace Script

variable {α : Type} (script : Script α)

theorem next?_eq :
    script.next? = (script.head?, if 1 < script.length then script.tail else script) := by
  match script with
  | [] => rfl
  | [_] => rfl
  | _ :: _ :: _ => simp [next?]

/-- What is left of a script after some reads. -/
def remaining (reads : Nat) : Script α := script.drop (min reads (script.length - 1))

theorem next?_remaining (reads : Nat) :
    (script.remaining reads).next? =
      (script[min reads (script.length - 1)]?, script.remaining (reads + 1)) := by
  rw [next?_eq, remaining, List.head?_drop, List.length_drop, List.tail_drop]
  congr 1
  split
  · rw [remaining]
    congr 1
    omega
  · rw [remaining]
    congr 1
    omega

end Script

namespace ScriptedDevice

section Description

/-- The value of the last write to the parameter that succeeded. -/
def lastWritten? (past : List Answered) (p : ParamRef) : Option ParamValue :=
  past.reverse.findSome? (Answered.writtenTo? p)

def readsOf (past : List Answered) (p : ParamRef) : Nat := (past.filterMap Answered.read?).count p

def notFound (p : ParamRef) : Reply ParamValue :=
  .error (.device ("Error getting param: " ++ p.text ++ " not found"))

variable (scripts : ParamRef → Script ParamValue) (past : List Answered) (p : ParamRef)

/-- The reply to a read with this past, by the scripts from the start. -/
def expected : Reply ParamValue :=
  match lastWritten? past p with
  | some value => .ok value
  | none => (scripts p)[min (readsOf past p) ((scripts p).length - 1)]?.getD (notFound p)

def expectedRow : Script ParamValue :=
  match lastWritten? past p with
  | some value => [.ok value]
  | none => (scripts p).remaining (readsOf past p)

theorem lastWritten?_concat (last : Answered) :
    lastWritten? (past ++ [last]) p = (last.writtenTo? p).or (lastWritten? past p) := by
  rw [lastWritten?, List.reverse_concat, List.findSome?_cons]
  cases last.writtenTo? p <;> rfl

theorem readsOf_concat (last : Answered) :
    readsOf (past ++ [last]) p = readsOf past p + if last.read? = some p then 1 else 0 := by
  rw [readsOf, List.filterMap_append, List.count_append]
  cases h : last.read? <;> simp [readsOf, h, List.count_singleton]

theorem reply_expectedRow :
    (expectedRow scripts past p).next?.1.getD (notFound p) = expected scripts past p := by
  unfold expectedRow expected
  cases lastWritten? past p with
  | some value => rfl
  | none => rw [Script.next?_remaining]

end Description

section Steps

variable (d : ScriptedDevice) (p q : ParamRef) (value : ParamValue)

theorem reply_read : (answer (.read p) d).1 = (d.script p).next?.1.getD (notFound p) := d.read_fst p

theorem reply_write :
    (answer (.write p value) d).1 = (d.writeError.map Except.error).getD (.ok ()) := by
  simp only [answer, write]
  cases d.writeError <;> rfl

theorem answer_write_of_error {e : CallError} (failed : (answer (.write p value) d).1 = .error e) :
    (answer (.write p value) d).2 = d := by
  revert failed
  simp only [answer, write]
  cases d.writeError with
  | none =>
    intro succeeded
    cases succeeded
  | some e => exact fun _ => rfl

theorem writeError_answer (call : Call) : (answer call d).2.writeError = d.writeError := by
  cases call with
  | read p =>
    simp only [answer, read]
    split <;> rfl
  | write p value =>
    simp only [answer, write]
    split <;> simp_all [withScript]
  | dpdResults =>
    simp only [answer, readDpd]
    split <;> rfl
  | paramTable | dpdCommand => rfl

theorem readLog_answer_call (call : Call) :
    (answer call d).2.readLog = d.readLog ++ call.param?.toList := by
  cases call with
  | read | dpdResults => exact d.readLog_answer rfl
  | write p value =>
    simp only [answer, write]
    split <;> simp [withScript, Call.param?]
  | paramTable | dpdCommand => simp [answer, Call.param?]

theorem writes_answer (call : Call) :
    (answer call d).2.writes = d.writes ++ (Answered.write? ⟨call, (answer call d).1⟩).toList := by
  cases call with
  | read p =>
    simp only [answer, read]
    split <;> simp [withScript, Answered.write?]
  | write p value =>
    simp only [answer, write]
    split <;> simp [Answered.write?]
  | dpdResults =>
    simp only [answer, readDpd]
    split <;> simp [Answered.write?]
  | paramTable | dpdCommand => simp [answer, Answered.write?]

theorem script_answer (call : Call) :
    (answer call d).2.script p =
      match Answered.writtenTo? p ⟨call, (answer call d).1⟩ with
      | some value => [.ok value]
      | none => if call.param? = some p then (d.script p).next?.2 else d.script p := by
  cases call with
  | read q =>
    have asked : (Call.read q).param? = some p ↔ p = q := by simp [Call.param?, eq_comm]
    simp only [answer, script_read, Answered.writtenTo?, Answered.write?, Option.bind_none, asked]
    split <;> simp_all
  | write q value =>
    simp only [answer, write]
    cases d.writeError with
    | some e => rfl
    | none =>
      have row := d.script_withScript q p [.ok value]
      refine Eq.trans row ?_
      by_cases same : q = p
      · simp [same, Answered.writtenTo?, Answered.write?]
      · simp [same, Ne.symm same, Answered.writtenTo?, Answered.write?, Call.param?]
  | dpdResults => simp [answer, script_readDpd, Answered.writtenTo?, Answered.write?, Call.param?]
  | paramTable | dpdCommand => rfl

end Steps

section Histories

variable (d : ScriptedDevice) (calls : List Call) (p : ParamRef) (value : ParamValue)

theorem writeError_after : (answer.after d calls).writeError = d.writeError := by
  induction calls using List.reverseRecOn with
  | nil => rfl
  | append_singleton calls call ih => rw [Client.after_concat, writeError_answer, ih]

theorem readLog_after : (answer.after d calls).readLog = d.readLog ++ calls.filterMap Call.param? := by
  induction calls using List.reverseRecOn with
  | nil => simp [Client.after]
  | append_singleton calls call ih =>
    rw [Client.after_concat, readLog_answer_call, ih, List.filterMap_append, List.append_assoc]
    cases h : call.param? <;> simp [h]

theorem writes_after :
    (answer.after d calls).writes =
      d.writes ++ (answer.answered d calls).filterMap Answered.write? := by
  induction calls using List.reverseRecOn with
  | nil => simp [Client.after, Client.answered]
  | append_singleton calls call ih =>
    rw [Client.after_concat, writes_answer, ih, Client.answered_concat, List.filterMap_append,
      List.append_assoc]
    cases h : Answered.write? ⟨call, (answer call (answer.after d calls)).1⟩ <;> simp [h]

theorem script_after :
    (answer.after d calls).script p = expectedRow d.script (answer.answered d calls) p := by
  induction calls using List.reverseRecOn with
  | nil => simp [Client.after, Client.answered, expectedRow, lastWritten?, readsOf, Script.remaining]
  | append_singleton calls call ih =>
    rw [Client.after_concat, script_answer, Client.answered_concat, expectedRow, lastWritten?_concat,
      readsOf_concat]
    cases Answered.writtenTo? p ⟨call, (answer call (answer.after d calls)).1⟩ with
    | some value => rfl
    | none =>
      rw [ih, Option.none_or, Answered.read?]
      dsimp only
      unfold expectedRow
      -- After a write the row is one value, which a read does not use up.
      cases lastWritten? (answer.answered d calls) p with
      | some value => by_cases asked : call.param? = some p <;> simp [asked, Script.next?]
      | none => by_cases asked : call.param? = some p <;> simp [asked, Script.next?_remaining]

/-- What is answered depends on the row of the parameter that the call is on, and on whether writes fail. -/
theorem answer_congr_of_target {d e : ScriptedDevice} {call : Call} (on : call.target? = some p)
    (row : d.script p = e.script p) (failing : d.writeError = e.writeError) :
    (answer call d).1 = (answer call e).1 := by
  cases call with
  | read q =>
    obtain rfl := Option.some.inj on
    rw [reply_read, reply_read, row]
  | write q value =>
    rw [reply_write, reply_write, failing]
  | paramTable | dpdResults | dpdCommand => cases on

theorem script_answer_of_target_ne {call : Call} (elsewhere : call.target? ≠ some p) :
    (answer call d).2.script p = d.script p := by
  rw [script_answer]
  cases call with
  | read q =>
    have other : (Call.read q).param? ≠ some p := elsewhere
    rw [if_neg other]
    rfl
  | write q value =>
    have other : q ≠ p := fun same => elsewhere (congrArg some same)
    cases (answer (.write q value) d).1 <;>
      simp [Answered.writtenTo?, Answered.write?, Call.param?, other]
  | paramTable | dpdResults | dpdCommand => rfl

/-- A history as one parameter meets it: the calls on other parameters could as well be missing. -/
theorem answered_on {d e : ScriptedDevice} (row : d.script p = e.script p)
    (failing : d.writeError = e.writeError) :
    (answer.answered d calls).filter (·.call.target? = some p) =
      answer.answered e (calls.filter (·.target? = some p)) := by
  induction calls generalizing d e with
  | nil => rfl
  | cons call rest ih =>
    have failing' : (answer call d).2.writeError = e.writeError := by rw [writeError_answer, failing]
    by_cases on : call.target? = some p
    · have reply := answer_congr_of_target p on row failing
      have rows : (answer call d).2.script p = (answer call e).2.script p := by
        rw [script_answer, script_answer, reply, row]
      have failing'' : (answer call d).2.writeError = (answer call e).2.writeError := by
        rw [failing', writeError_answer]
      simp only [Client.answered, List.filter_cons, on, decide_true, if_true, reply, ih rows failing'']
    · have kept : (answer call d).2.script p = e.script p := by
        rw [script_answer_of_target_ne d p on, row]
      simp only [Client.answered, List.filter_cons, on, decide_false, ih kept failing']
      rfl

/-- The scripted device is as described, from any state and after any history of calls. -/
theorem answers_as_described :
    let now := answer.after d calls
    let past := answer.answered d calls
    (∀ p, (answer (.read p) now).1 = expected d.script past p) ∧
      (∀ p value, (answer (.write p value) now).1 = (d.writeError.map Except.error).getD (.ok ())) ∧
      (∀ p, past.filter (·.call.target? = some p) =
        answer.answered d (calls.filter (·.target? = some p))) ∧
      now.readLog = d.readLog ++ calls.filterMap Call.param? ∧
      (∀ p, now.readCount p = d.readCount p + readsOf past p) ∧
      now.writes = d.writes ++ past.filterMap Answered.write? ∧
      ∀ p value e, (answer (.write p value) now).1 = .error e → (answer (.write p value) now).2 = now := by
  intro now past
  refine ⟨fun p => ?_, fun p value => ?_, fun p => ?_, readLog_after d calls, fun p => ?_,
    writes_after d calls, fun p value e => answer_write_of_error now p value⟩
  · rw [reply_read, script_after, reply_expectedRow]
  · rw [reply_write, writeError_after]
  · exact answered_on calls p rfl rfl
  · rw [readCount, readLog_after, List.count_append, readsOf, Client.filterMap_read?_answered, readCount]

end Histories

end ScriptedDevice
end ModulatorHealth
