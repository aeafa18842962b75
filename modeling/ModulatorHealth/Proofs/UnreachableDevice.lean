import ModulatorHealth.Proofs.QueryExits
import ModulatorHealth.Proofs.ScriptedReference

/-! The device that cannot be reached, after any history of calls. It refuses writes and no row of it has
a second reply, so it replies at any time as it does at the start. It is unreachable for the parameters
that a health check reads, for writes, for the table and for the predistortion results; any other parameter
is one that it does not know, and it acknowledges every command. -/
namespace ModulatorHealth

namespace Call

def command? : Call → Option Predistortion.Command
  | .dpdCommand command => some command
  | .read _ | .write _ _ | .paramTable | .dpdResults => none

/-- The calls that an unreachable device was made to fail. -/
def IsCutOff : Call → Prop
  | .read p => p ∈ ScriptedDevice.checkedParams
  | .write _ _ | .paramTable | .dpdResults => True
  | .dpdCommand _ => False

end Call

theorem Script.next?_snd_of_length_le {α : Type} {script : Script α} (short : script.length ≤ 1) :
    script.next?.2 = script := by
  rw [next?_eq, if_neg (Nat.not_lt.mpr short)]

namespace ScriptedDevice

section Alike

/-- The same replies lie ahead on both devices. -/
structure Agrees (d e : ScriptedDevice) : Prop where
  script : ∀ p, d.script p = e.script p
  writeError : d.writeError = e.writeError
  paramTable : d.paramTable = e.paramTable
  dpd : d.dpd = e.dpd

theorem Agrees.trans {d e f : ScriptedDevice} (left : Agrees d e) (right : Agrees e f) : Agrees d f where
  script p := (left.script p).trans (right.script p)
  writeError := left.writeError.trans right.writeError
  paramTable := left.paramTable.trans right.paramTable
  dpd := left.dpd.trans right.dpd

theorem Agrees.reply {d e : ScriptedDevice} (same : Agrees d e) (call : Call) :
    (answer call d).1 = (answer call e).1 := by
  cases call with
  | read p => rw [reply_read, reply_read, same.script]
  | write p value => rw [reply_write, reply_write, same.writeError]
  | paramTable => simp only [answer, same.paramTable]
  | dpdResults => simp only [answer, readDpd_fst, same.dpd]
  | dpdCommand command => rfl

end Alike

section Fields

variable (d : ScriptedDevice) (call : Call)

theorem paramTable_answer : (answer call d).2.paramTable = d.paramTable := by
  cases call with
  | read p =>
    simp only [answer, read]
    split <;> rfl
  | write p value =>
    simp only [answer, write]
    split <;> rfl
  | dpdResults =>
    simp only [answer, readDpd]
    split <;> rfl
  | paramTable | dpdCommand => rfl

theorem dpd_answer :
    (answer call d).2.dpd = match call with
      | .dpdResults => d.dpd.next?.2
      | .read _ | .write _ _ | .paramTable | .dpdCommand _ => d.dpd := by
  cases call with
  | read p => exact d.dpd_read p
  | write p value =>
    simp only [answer, write]
    split <;> rfl
  | dpdResults => exact d.dpd_readDpd
  | paramTable | dpdCommand => rfl

theorem commands_answer : (answer call d).2.commands = d.commands ++ call.command?.toList := by
  cases call with
  | read p =>
    simp only [answer, read]
    split <;> simp [withScript, Call.command?]
  | write p value =>
    simp only [answer, write]
    split <;> simp [withScript, Call.command?]
  | dpdResults =>
    simp only [answer, readDpd]
    split <;> simp [Call.command?]
  | paramTable | dpdCommand => simp [answer, Call.command?]

theorem commands_after (calls : List Call) :
    (answer.after d calls).commands = d.commands ++ calls.filterMap Call.command? := by
  induction calls using List.reverseRecOn with
  | nil => exact (List.append_nil _).symm
  | append_singleton calls call ih =>
    rw [Client.after_concat, commands_answer, ih, List.filterMap_append, List.append_assoc]
    cases h : call.command? <;> simp [h]

end Fields

section Steady

/-- Nothing that is called changes the replies to come. -/
structure IsSteady (d : ScriptedDevice) : Prop where
  refuses : d.writeError ≠ none
  script : ∀ p, (d.script p).length ≤ 1
  dpd : d.dpd.length ≤ 1

variable {d e : ScriptedDevice} (steady : d.IsSteady) (call : Call) (calls : List Call)
include steady

theorem IsSteady.of_agrees (same : Agrees e d) : e.IsSteady where
  refuses := same.writeError ▸ steady.refuses
  script p := same.script p ▸ steady.script p
  dpd := same.dpd ▸ steady.dpd

theorem IsSteady.write?_eq_none : Answered.write? ⟨call, (answer call d).1⟩ = none := by
  cases call with
  | write p value =>
    rw [reply_write]
    cases failing : d.writeError with
    | none => exact absurd failing steady.refuses
    | some error => rfl
  | read | paramTable | dpdResults | dpdCommand => rfl

theorem IsSteady.agrees_answer : Agrees (answer call d).2 d where
  script p := by
    rw [script_answer, Answered.writtenTo?, steady.write?_eq_none, Option.bind_none]
    dsimp only
    split
    · exact Script.next?_snd_of_length_le (steady.script p)
    · rfl
  writeError := d.writeError_answer call
  paramTable := d.paramTable_answer call
  dpd := by
    rw [dpd_answer]
    cases call with
    | dpdResults => exact Script.next?_snd_of_length_le steady.dpd
    | read | write | paramTable | dpdCommand => rfl

/-- By induction on the calls, from the first on: the device stays steady, since it goes on as it was. -/
theorem IsSteady.agrees_after : Agrees (answer.after d calls) d := by
  induction calls using List.reverseRecOn with
  | nil => exact ⟨fun _ => rfl, rfl, rfl, rfl⟩
  | append_singleton calls call ih =>
    rw [Client.after_concat]
    exact ((steady.of_agrees ih).agrees_answer call).trans ih

theorem IsSteady.writes_after : (answer.after d calls).writes = d.writes := by
  induction calls using List.reverseRecOn with
  | nil => rfl
  | append_singleton calls call ih =>
    have steady' := steady.of_agrees (steady.agrees_after calls)
    rw [Client.after_concat, writes_answer, steady'.write?_eq_none, ih]
    exact List.append_nil _

end Steady

section Unreachable

variable (detail : String)

theorem script_foldl_withScript (params : List ParamRef) (script : Script ParamValue) (d : ScriptedDevice)
    (p : ParamRef) :
    (params.foldl (fun d p => d.withScript p script) d).script p =
      if p ∈ params then script else d.script p := by
  induction params generalizing d with
  | nil => rfl
  | cons q rest ih =>
    rw [List.foldl_cons, ih, script_withScript]
    by_cases listed : p ∈ rest <;> simp [listed]

theorem script_unreachable (p : ParamRef) :
    (unreachable detail).script p = if p ∈ checkedParams then [.error (.unreachable detail)] else [] :=
  script_foldl_withScript checkedParams _ empty p

theorem isSteady_unreachable : (unreachable detail).IsSteady where
  refuses := nofun
  script p := by
    rw [script_unreachable]
    split
    · exact Nat.le_refl 1
    · exact Nat.zero_le 1
  dpd := Nat.le_refl 1

theorem reply_read_unreachable (p : ParamRef) :
    (answer (.read p) (unreachable detail)).1 =
      if p ∈ checkedParams then .error (.unreachable detail) else notFound p := by
  rw [reply_read, script_unreachable]
  split <;> rfl

theorem reply_unreachable_iff (call : Call) :
    (answer call (unreachable detail)).1 = .error (.unreachable detail) ↔ call.IsCutOff := by
  cases call with
  | read p =>
    rw [reply_read_unreachable]
    by_cases checked : p ∈ checkedParams
    · exact iff_of_true (if_pos checked) checked
    · rw [if_neg checked]
      exact iff_of_false nofun checked
  | write | paramTable | dpdResults => exact iff_of_true rfl trivial
  | dpdCommand => exact iff_of_false nofun id

end Unreachable

end ScriptedDevice

namespace Command

variable {σ : Type} {query : Query} (client : Client σ) (device : σ)

theorem status_runQuery_of_blank (blank : query.HasBlankName) :
    (runQuery query client device).1.status = .failure := by
  obtain ⟨invalid, refused⟩ := Query.inquiry_of_blank blank
  rw [runQuery, refused]
  rfl

theorem status_runQuery_of_named (named : ¬ query.HasBlankName) :
    (runQuery query client device).1.status = (client query.call device).1.exit := by
  obtain ⟨inquiry, made, same⟩ := Query.inquiry_of_named named
  rw [← same, runQuery, made]
  exact conclude_exit inquiry _

end Command

namespace ScriptedDevice

theorem exit_unreachable (detail : String) (call : Call) :
    ((answer call (unreachable detail)).1.exit = .deviceUnavailable ↔ call.IsCutOff) ∧
    ((answer call (unreachable detail)).1.exit = .badResponse ↔ ∃ p ∉ checkedParams, call = .read p) ∧
    ((answer call (unreachable detail)).1.exit = .success ↔ ∃ command, call = .dpdCommand command) := by
  by_cases cutOff : call.IsCutOff
  · have known : ¬ ∃ p ∉ checkedParams, call = .read p := by
      rintro ⟨p, other, rfl⟩
      exact other cutOff
    have asking : ¬ ∃ command, call = .dpdCommand command := by
      rintro ⟨command, rfl⟩
      exact cutOff
    have exit : (answer call (unreachable detail)).1.exit = .deviceUnavailable := by
      rw [(reply_unreachable_iff detail call).mpr cutOff]
      rfl
    rw [exit]
    exact ⟨iff_of_true rfl cutOff, iff_of_false (by decide) known, iff_of_false (by decide) asking⟩
  · cases call with
    | read p =>
      have other : p ∉ checkedParams := cutOff
      rw [reply_read_unreachable, if_neg other]
      simp [notFound, Reply.exit, Cause.status, cutOff, other]
    | dpdCommand command =>
      have exit : (answer (.dpdCommand command) (unreachable detail)).1.exit = .success := rfl
      simp [exit, cutOff]
    | write | paramTable | dpdResults => exact absurd trivial cutOff

/-- The unreachable device after any history of calls. It fails what it was made to fail, and keeps no
write. It says of any other parameter that there is none, which is what a device says that answers, and
it acknowledges and keeps every command. So a query is told that the device is unavailable exactly
if it makes one of the calls that were made to fail. -/
theorem unreachable_fails_iff (detail : String) (calls : List Call) :
    let now := answer.after (unreachable detail) calls
    (∀ call, (answer call now).1 = .error (.unreachable detail) ↔ call.IsCutOff) ∧
    (∀ p ∉ checkedParams, (answer (.read p) now).1 = notFound p) ∧
    (∀ command, (answer (.dpdCommand command) now).1 = .ok ()) ∧
    now.writes = [] ∧
    now.commands = calls.filterMap Call.command? ∧
    ∀ query : Query,
      let code := (Command.runQuery query answer now).1.status.code
      (query.HasBlankName → code = 1) ∧
      (¬ query.HasBlankName →
        (code = 70 ↔ query.call.IsCutOff) ∧
        (code = 65 ↔ ∃ p ∉ checkedParams, query.call = .read p) ∧
        (code = 0 ↔ ∃ command, query.call = .dpdCommand command)) := by
  intro now
  have steady := isSteady_unreachable detail
  have reply (call : Call) : (answer call now).1 = (answer call (unreachable detail)).1 :=
    (steady.agrees_after calls).reply call
  refine ⟨fun call => ?_, fun p other => ?_, fun command => rfl, steady.writes_after calls,
    commands_after _ calls, fun query => ⟨fun blank => ?_, fun named => ?_⟩⟩
  · rw [reply, reply_unreachable_iff]
  · rw [reply, reply_read_unreachable, if_neg other]
  · rw [Command.status_runQuery_of_blank answer now blank]
    rfl
  · obtain ⟨success, unavailable, bad⟩ := code_eq_iff (Command.runQuery query answer now).1.status
    rw [success, unavailable, bad, Command.status_runQuery_of_named answer now named, reply]
    obtain ⟨cutOff, unknown, acknowledged⟩ := exit_unreachable detail query.call
    exact ⟨cutOff, unknown, acknowledged⟩

/-- A parameter that no check reads is not found, which a device must have been reached to say, and a
calibration is acknowledged and kept. -/
theorem unreachable_acknowledges :
    let down := unreachable "down"
    (answer (.read ⟨"sdr", "txgain"⟩) down).1 =
      .error (.device "Error getting param: sdr.txgain not found") ∧
    (answer (.dpdCommand .calibrate) down).1 = .ok () ∧
    (answer (.dpdCommand .calibrate) down).2.commands = [.calibrate] ∧
    (Command.runQuery (.get "sdr" "txgain") answer down).1.status.code = 65 ∧
    (Command.runQuery (.dpd .calibrate) answer down).1.status.code = 0 :=
  ⟨rfl, rfl, rfl, by decide, rfl⟩

end ScriptedDevice
end ModulatorHealth
